import GoLayout.CommandLine.Run
import Mathlib.Tactic.Lemma

/-!
# Commands in a file system

In a file system that is given as a value a computation is a function of the world in which it starts.  What it can do
there is said once, for all commands (`Ends`): it reads files, and then it fails, prints a text, or makes one write,
which only re-indenting to an output does.
-/

namespace GoLayout.CommandLine

open GoLayout.Text
open MonadSystem (readFile writeFile print)

variable {δ α β : Type} [FileSystem δ] {w : World δ} {color : Bool} {mode : Mode} {c : Command} {s : Settings}

namespace World

/-- How a computation that may fail ends in a world. -/
def exec (w : World δ) (x : ExceptT Problem (StateM (World δ)) α) : Except Problem α × World δ := x.run.run w

omit [FileSystem δ] in
@[simp] lemma noting_noting (w : World δ) (calls calls' : List Call) :
    (w.noting calls).noting calls' = w.noting (calls ++ calls') := by
  simp [noting]

omit [FileSystem δ] in
@[simp] lemma noting_nil (w : World δ) : w.noting [] = w := by
  simp [noting]

omit [FileSystem δ] in
@[simp] lemma directory_noting (w : World δ) (calls : List Call) : (w.noting calls).directory = w.directory := rfl

omit [FileSystem δ] in
lemma exec_bind (x : ExceptT Problem (StateM (World δ)) α) (f : α → ExceptT Problem (StateM (World δ)) β) :
    w.exec (x >>= f) = match w.exec x with
      | (.ok a, w') => w'.exec (f a)
      | (.error p, w') => (.error p, w') := by
  show (match x.run.run w with
    | (r, w') => ((ExceptT.bindCont f r).run w' : Id (Except Problem β × World δ))) = _
  unfold exec
  rcases x.run.run w with ⟨_ | _, w'⟩ <;> rfl

omit [FileSystem δ] in
/-- What goes on from a computation starts in the world that the computation has left. -/
lemma exec_bind_of_snd {x : ExceptT Problem (StateM (World δ)) α} {w' : World δ} (h : (w.exec x).2 = w')
    (f : α → ExceptT Problem (StateM (World δ)) β) :
    w.exec (x >>= f) = match (w.exec x).1 with
      | .ok a => w'.exec (f a)
      | .error p => (.error p, w') := by
  subst h
  rw [exec_bind]
  rcases w.exec x with ⟨_ | _, w'⟩ <;> rfl

lemma exec_readFile (path : String) :
    w.exec (readFile path) = (.ok (FileSystem.read w.directory path), w.noting [.read path]) := rfl

lemma exec_writeFile (path text : String) :
    w.exec (writeFile path text) = (.ok (FileSystem.write w.directory path text).1,
      { w.noting [.write path text] with directory := (FileSystem.write w.directory path text).2 }) := rfl

end World

open World (exec exec_bind exec_bind_of_snd exec_readFile exec_writeFile)

/-! ## Inputs and outputs -/

lemma exec_source (path : String) :
    w.exec (source path)
      = ((FileSystem.read w.directory path).mapError (Problem.source path), w.noting [.read path]) := by
  rw [source, exec_bind, exec_readFile]
  cases FileSystem.read w.directory path <;> rfl

lemma exec_save (path text : String) :
    w.exec (save path text) =
      ((FileSystem.write w.directory path text).1.mapError (Problem.target path),
        { w.noting [.write path text] with directory := (FileSystem.write w.directory path text).2 }) := by
  rw [save, exec_bind, exec_writeFile]
  rcases FileSystem.write w.directory path text with ⟨_ | _, d⟩ <;> rfl

lemma exec_perform_indent {input text : String} (hr : FileSystem.read w.directory input = .ok text)
    (output : Option String) (check : Bool) :
    w.exec ((Command.indent input output check).perform color mode) = (w.noting [.read input]).exec
      (if check then
        if mode.reindent text = text then
          print (label color "1;32" "ok" ++ ": " ++ quoteString input ++ " is indented\n")
        else throw (.notIndented input)
      else output.elim (print (mode.reindent text)) (save · (mode.reindent text))) := by
  rw [Command.perform, exec_bind, exec_source, hr]
  cases output <;> rfl

/-! ## The end of a command -/

/-- How a command may end that starts in a world: some files were read, and at most one more thing was done. -/
inductive Ends (w : World δ) (c : Command) : Except Problem Unit × World δ → Prop
  | fails (p : Problem) (paths : List String) : Ends w c (.error p, w.noting (paths.map .read))
  | prints (text : String) (paths : List String) :
    Ends w c (.ok (), { w.noting (paths.map .read) with stdout := w.stdout ++ text })
  | saves {input path : String} (text : String) (paths : List String) (hc : c = .indent input (some path) false) :
    Ends w c ((FileSystem.write w.directory path text).1.mapError (Problem.target path),
      { w.noting (paths.map .read ++ [.write path text]) with
        directory := (FileSystem.write w.directory path text).2 })

/-- What was read before is read. -/
lemma Ends.of_noting (paths : List String) {r : Except Problem Unit × World δ}
    (h : Ends (w.noting (paths.map .read)) c r) : Ends w c r := by
  cases h with
  | fails p paths' =>
    rw [World.noting_noting, ← List.map_append]
    exact .fails p _
  | prints text paths' =>
    rw [World.noting_noting, ← List.map_append]
    exact .prints text _
  | saves text paths' hc =>
    rw [World.noting_noting, ← List.append_assoc, ← List.map_append]
    exact .saves text _ hc

lemma ends_throw (p : Problem) : Ends w c (w.exec (throw p)) := by
  have h := Ends.fails (w := w) (c := c) p []
  rwa [List.map_nil, World.noting_nil] at h

lemma ends_print (text : String) : Ends w c (w.exec (print text)) := by
  have h := Ends.prints (w := w) (c := c) text []
  rwa [List.map_nil, World.noting_nil] at h

lemma ends_save {input path : String} (text : String) (hc : c = .indent input (some path) false) :
    Ends w c (w.exec (save path text)) := by
  rw [exec_save]
  exact .saves text [] hc

/-- What goes on from an input ends as it does in the world in which the input was read. -/
lemma ends_source_bind {path : String} {f : String → ExceptT Problem (StateM (World δ)) Unit}
    (h : ∀ text, Ends (w.noting [.read path]) c ((w.noting [.read path]).exec (f text))) :
    Ends w c (w.exec (source path >>= f)) := by
  rw [exec_bind, exec_source]
  cases FileSystem.read w.directory path with
  | error fault => exact .fails _ [path]
  | ok text => exact .of_noting [path] (h text)

/-- **What a command can do.** -/
lemma ends_perform (w : World δ) (color : Bool) (mode : Mode) (c : Command) :
    Ends w c (w.exec (c.perform color mode)) := by
  -- a command reads its input, if it has one, and what it does then is its last step
  cases c with
  | tokens input json => exact ends_source_bind fun text => ends_print _
  | highlight input => exact ends_source_bind fun text => ends_print _
  | mime type =>
    rw [Command.perform]
    split
    · exact ends_print _
    · exact ends_throw _
  | indent input output check =>
    refine ends_source_bind fun text => ?_
    dsimp only
    cases check with
    | true =>
      rw [if_pos rfl]
      split
      · exact ends_print _
      · exact ends_throw _
    | false =>
      cases output with
      | none => exact ends_print _
      | some path => exact ends_save _ rfl

/-! ## The settings of a run -/

/-- The configuration that settings start from needs no file but the one that they name. -/
lemma exec_base (w : World δ) (s : Settings) :
    w.exec s.base = (match s.configFile with
      | none => .ok {}
      | some path => (Config.ofFile (FileSystem.read w.directory path)).mapError (Problem.config path),
      w.noting (s.configFile.toList.map .read)) := by
  unfold Settings.base
  cases s.configFile with
  | none =>
    rw [Option.toList_none, List.map_nil, World.noting_nil]
    rfl
  | some path =>
    simp only [exec_bind, exec_readFile, Option.toList_some, List.map_cons, List.map_nil]
    cases Config.ofFile (FileSystem.read w.directory path) <;> rfl

/-- A mode is made from that configuration, without a look at other files. -/
lemma exec_mode (w : World δ) (s : Settings) :
    w.exec s.mode = (match (w.exec s.base).1 with
      | .ok c => (Mode.ofConfig (s.override c)).mapError Problem.settings
      | .error p => .error p,
      w.noting (s.configFile.toList.map .read)) := by
  have hworld : (w.exec s.base).2 = w.noting (s.configFile.toList.map .read) := congrArg Prod.snd (exec_base w s)
  rw [Settings.mode, exec_bind_of_snd hworld]
  cases (w.exec s.base).1 with
  | error p => rfl
  | ok c =>
    dsimp only
    cases Mode.ofConfig (s.override c) <;> rfl

/-- Whether a command is performed depends on the mode, and it starts where the settings were looked up. -/
lemma exec_settings_perform (w : World δ) (color : Bool) (s : Settings) (c : Command) :
    w.exec (s.perform color c) = match (w.exec s.mode).1 with
      | .ok mode => (w.noting (s.configFile.toList.map .read)).exec (c.perform color mode)
      | .error p => (.error p, w.noting (s.configFile.toList.map .read)) := by
  have hworld : (w.exec s.mode).2 = w.noting (s.configFile.toList.map .read) := congrArg Prod.snd (exec_mode w s)
  rw [Settings.perform, exec_bind_of_snd hworld]
  cases (w.exec s.mode).1 <;> rfl

lemma ends_settings_perform (w : World δ) (color : Bool) (s : Settings) (c : Command) :
    Ends w c (w.exec (s.perform color c)) := by
  rw [exec_settings_perform]
  cases (w.exec s.mode).1 with
  | error p => exact .fails p s.configFile.toList
  | ok mode => exact .of_noting _ (ends_perform _ color mode c)

end GoLayout.CommandLine
