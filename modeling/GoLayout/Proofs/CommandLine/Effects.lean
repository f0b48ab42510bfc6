import GoLayout.Proofs.CommandLine.Running
import GoLayout.Proofs.CommandLine.Writing

/-!
# The effects of a run

A run settles its configuration before the command looks at anything, and it prints or writes only in its last step.  Hence
it can fail without a trace: a run that fails has printed nothing and has left all files as they were, if only a write that
fails does so.  A failure of the configuration is the same for all commands, and no other file is read.

The configuration of a file has to be usable before the settings on the command line replace parts of it, and what they
make of it has to be usable again (`Settings.Fails`).  All this holds in any file system.
-/

namespace GoLayout

lemma Mode.ofConfig_of_usable {c : Config} (h : c.Usable) : Mode.ofConfig c = .ok ⟨c, h⟩ := by
  have hd : c.defect? = none := Config.defect?_eq_none_iff.2 h
  unfold ofConfig
  split
  · rename_i d hs
    rw [hd] at hs
    cases hs
  · rfl

lemma Config.exists_defect {c : Config} (h : ¬c.Usable) : ∃ d, c.defect? = some d := by
  cases hd : c.defect? with
  | none => exact absurd (defect?_eq_none_iff.1 hd) h
  | some d => exact ⟨d, rfl⟩

lemma Mode.exists_ofConfig_eq_error {c : Config} (h : ¬c.Usable) : ∃ d, Mode.ofConfig c = .error d := by
  unfold ofConfig
  split
  · exact ⟨_, rfl⟩
  · rename_i hs
    exact absurd (Config.defect?_eq_none_iff.1 hs) h

namespace CommandLine

open FileSystem (WritesCleanly ReadsBack)
open World (exec start)

/-! ## The configuration of a run -/

namespace Settings

variable {read : String → Except FileFault String} {s : Settings} {base : Config}

/-- The configuration that the settings start from: the one in the file that they name, or else the default. -/
inductive StartsFrom (read : String → Except FileFault String) (s : Settings) : Config → Prop
  | default (hp : s.configFile = none) : StartsFrom read s {}
  | file {path text : String} {c : Config} (hp : s.configFile = some path) (hr : read path = .ok text)
    (ht : Config.readText text.toList = .ok c) (hu : c.Usable) : StartsFrom read s c

/-- Why settings make no mode. -/
inductive Fails (read : String → Except FileFault String) (s : Settings) : Prop
  /-- The file cannot be read. -/
  | unreadable {path : String} {f : FileFault} (hp : s.configFile = some path) (hr : read path = .error f)
  /-- The file holds no configuration. -/
  | malformed {path text : String} {e : Json.Fault} (hp : s.configFile = some path) (hr : read path = .ok text)
    (ht : Config.readText text.toList = .error e)
  /-- The configuration in the file is not usable, whatever replaces it. -/
  | unusable {path text : String} {c : Config} (hp : s.configFile = some path) (hr : read path = .ok text)
    (ht : Config.readText text.toList = .ok c) (hu : ¬c.Usable)
  /-- What the settings make of the configuration is not usable. -/
  | overridden {base : Config} (hb : s.StartsFrom read base) (hu : ¬(s.override base).Usable)

lemma exists_startsFrom (h : ¬s.Fails read) : ∃ base, s.StartsFrom read base ∧ (s.override base).Usable := by
  suffices hb : ∃ base, s.StartsFrom read base by
    obtain ⟨base, hb⟩ := hb
    exact ⟨base, hb, Classical.byContradiction fun hu => h (.overridden hb hu)⟩
  cases hp : s.configFile with
  | none => exact ⟨{}, .default hp⟩
  | some path =>
    cases hr : read path with
    | error f => exact absurd (.unreadable hp hr) h
    | ok text =>
      cases ht : Config.readText text.toList with
      | error e => exact absurd (.malformed hp hr ht) h
      | ok c => exact ⟨c, .file hp hr ht (Classical.byContradiction fun hu => h (.unusable hp hr ht hu))⟩

lemma StartsFrom.unique {base' : Config} (h : s.StartsFrom read base) (h' : s.StartsFrom read base') : base = base' := by
  cases h with
  | default hp =>
    cases h' with
    | default => rfl
    | file hp' => simp [hp] at hp'
  | file hp hr ht hu =>
    cases h' with
    | default hp' => simp [hp] at hp'
    | file hp' hr' ht' hu' =>
      obtain rfl := Option.some.inj (hp.symm.trans hp')
      obtain rfl := Except.ok.inj (hr.symm.trans hr')
      exact Except.ok.inj (ht.symm.trans ht')

variable {δ : Type} [FileSystem δ] {w w' : World δ}

lemma exec_mode_of_startsFrom (h : s.StartsFrom (FileSystem.read w.directory) base) :
    (w.exec s.mode).1 = (Mode.ofConfig (s.override base)).mapError Problem.settings := by
  rw [exec_mode, exec_base]
  cases h with
  | default hp => rw [hp]
  | file hp hr ht hu =>
    have hd := Config.defect?_eq_none_iff.2 hu
    simp only [hp, hr, Config.ofFile, Config.decode, ht, hd]
    rfl

lemma exec_mode_of_usable (h : s.StartsFrom (FileSystem.read w.directory) base) (hu : (s.override base).Usable) :
    (w.exec s.mode).1 = .ok ⟨s.override base, hu⟩ := by
  rw [exec_mode_of_startsFrom h, Mode.ofConfig_of_usable hu]
  rfl

lemma Fails.exists_exec_mode (h : s.Fails (FileSystem.read w.directory)) : ∃ p, (w.exec s.mode).1 = .error p := by
  cases h with
  | @overridden base hb hu =>
    obtain ⟨d, hd⟩ := Mode.exists_ofConfig_eq_error hu
    refine ⟨.settings d, ?_⟩
    rw [exec_mode_of_startsFrom hb, hd]
    rfl
  | @unreadable path f hp hr =>
    refine ⟨.config path (.file f), ?_⟩
    rw [exec_mode, exec_base, hp]
    simp only [hr, Config.ofFile]
    rfl
  | @malformed path text e hp hr ht =>
    refine ⟨.config path (.configuration (.malformed (e.report text.toList))), ?_⟩
    rw [exec_mode, exec_base, hp]
    simp only [hr, Config.ofFile, Config.decode, ht]
    rfl
  | @unusable path text c hp hr ht hu =>
    obtain ⟨d, hd⟩ := Config.exists_defect hu
    refine ⟨.config path (.configuration (.defect d)), ?_⟩
    rw [exec_mode, exec_base, hp]
    simp only [hr, Config.ofFile, Config.decode, ht, hd]
    rfl

/-- The mode depends on no file but that of the configuration. -/
lemma exec_mode_congr
    (h : ∀ path ∈ s.configFile, FileSystem.read w'.directory path = FileSystem.read w.directory path) :
    (w'.exec s.mode).1 = (w.exec s.mode).1 := by
  rw [exec_mode, exec_mode, exec_base, exec_base]
  cases hp : s.configFile with
  | none => rfl
  | some path =>
    dsimp only
    rw [h path hp]

end Settings

/-! ## How a run ends -/

section Runs

variable {δ : Type} [FileSystem δ] {color : Bool} {args : List String} {d d' : δ} {s : Settings} {c : Command}

/-- The outcome of a run, given how its command has ended. -/
def finish (color : Bool) : Except Problem Unit × World δ → Outcome δ
  | (.ok (), w) => { w with exit := 0 }
  | (.error p, w) => { w with stderr := w.stderr ++ p.complaint color, exit := 1 }

section Finish

variable (color) (r : Except Problem Unit × World δ)

omit [FileSystem δ] in
@[simp] lemma directory_finish : (finish color r).directory = r.2.directory := by
  rcases r with ⟨_ | _, w⟩ <;> rfl

omit [FileSystem δ] in
@[simp] lemma stdout_finish : (finish color r).stdout = r.2.stdout := by
  rcases r with ⟨_ | _, w⟩ <;> rfl

omit [FileSystem δ] in
@[simp] lemma calls_finish : (finish color r).calls = r.2.calls := by
  rcases r with ⟨_ | _, w⟩ <;> rfl

omit [FileSystem δ] in
lemma exit_finish_eq_one_iff : (finish color r).exit = 1 ↔ ∃ p, r.1 = .error p := by
  rcases r with ⟨p | u, w⟩
  · exact iff_of_true rfl ⟨p, rfl⟩
  · exact iff_of_false Nat.zero_ne_one (by simp)

end Finish

lemma run_eq_finish (hargs : Request.ofArguments? args = some (.run s c)) :
    run color args d = finish color ((start d).exec (s.perform color c)) := by
  have hprogram : (program color args : StateM (World δ) Nat).run (start d)
      = (conclude color ((start d).exec (s.perform color c)).1 : StateM (World δ) Nat).run
          ((start d).exec (s.perform color c)).2 := by
    rw [program, hargs]
    rfl
  unfold run
  rw [hprogram]
  rcases (start d).exec (s.perform color c) with ⟨_ | _, w⟩ <;> rfl

/-- A run that is no more than a text leaves no trace, and any other run ends as its command can. -/
lemma ends_run (color : Bool) (args : List String) (d : δ) :
    ((run color args d).exit ≠ 1 ∧ (run color args d).directory = d ∧ (run color args d).calls = []) ∨
      ∃ s c r, Request.ofArguments? args = some (.run s c) ∧ Ends (start d) c r ∧ run color args d = finish color r := by
  cases hargs : Request.ofArguments? args with
  | none =>
    left
    rw [run, program, hargs]
    exact ⟨show (2 : Nat) ≠ 1 by decide, rfl, rfl⟩
  | some request =>
    cases request with
    | version =>
      left
      rw [run, program, hargs]
      exact ⟨Nat.zero_ne_one, rfl, rfl⟩
    | help =>
      left
      rw [run, program, hargs]
      exact ⟨Nat.zero_ne_one, rfl, rfl⟩
    | run s c =>
      right
      exact ⟨s, c, _, rfl, ends_settings_perform _ color s c, run_eq_finish hargs⟩

/-- A run that fails has printed nothing, and it has changed nothing if a write that fails changes nothing. -/
lemma run_of_exit (h : (run color args d).exit = 1) :
    (run color args d).stdout = "" ∧ (WritesCleanly δ → (run color args d).directory = d) := by
  rcases ends_run color args d with ⟨hexit, -⟩ | ⟨s, c, r, -, hends, hrun⟩
  · exact absurd h hexit
  · rw [hrun, exit_finish_eq_one_iff] at h
    obtain ⟨p, hp⟩ := h
    rw [hrun, stdout_finish, directory_finish]
    cases hends with
    | fails p' paths => exact ⟨rfl, fun _ => rfl⟩
    | prints text paths => cases hp
    | @saves input path text paths hc =>
      -- of the runs that write, those fail whose write has failed
      refine ⟨rfl, fun hclean => ?_⟩
      cases hw : (FileSystem.write d path text).1 with
      | error f => exact hclean d path text f hw
      | ok u =>
        rw [show (start d).directory = d from rfl, hw] at hp
        cases hp

/-- Nothing is written but the output of a run that re-indents without a check. -/
lemma exists_indent_of_write_mem {path text : String} (h : .write path text ∈ (run color args d).calls) :
    ∃ s input, Request.ofArguments? args = some (.run s (.indent input (some path) false)) := by
  rcases ends_run color args d with ⟨-, -, hcalls⟩ | ⟨s, c, r, hargs, hends, hrun⟩
  · rw [hcalls] at h
    cases h
  · rw [hrun, calls_finish] at h
    cases hends with
    | fails p paths => simp [start, World.noting] at h
    | prints text' paths => simp [start, World.noting] at h
    | @saves input path' text' paths hc =>
      obtain ⟨rfl, rfl⟩ : path = path' ∧ text = text' := by simpa [start, World.noting] using h
      exact ⟨s, input, hc ▸ hargs⟩

lemma directory_run_of_write_notMem (h : ∀ path text, .write path text ∉ (run color args d).calls) :
    (run color args d).directory = d := by
  rcases ends_run color args d with ⟨-, hd, -⟩ | ⟨s, c, r, -, hends, hrun⟩
  · exact hd
  · simp only [hrun, calls_finish] at h
    rw [hrun, directory_finish]
    cases hends with
    | fails p paths => rfl
    | prints text paths => rfl
    | @saves input path text paths hc => exact absurd (by simp [World.noting]) (h path text)

/-- Settings that make no mode end the run, whatever the command is. -/
lemma run_of_fails {p : Problem} (hargs : Request.ofArguments? args = some (.run s c))
    (h : ((start d).exec s.mode).1 = .error p) :
    run color args d = finish color (.error p, (start d).noting (s.configFile.toList.map .read)) := by
  rw [run_eq_finish hargs, exec_settings_perform, h]

lemma run_of_mode {m : Mode} (hargs : Request.ofArguments? args = some (.run s c))
    (h : ((start d).exec s.mode).1 = .ok m) :
    run color args d
      = finish color (((start d).noting (s.configFile.toList.map .read)).exec (c.perform color m)) := by
  rw [run_eq_finish hargs, exec_settings_perform, h]

/-- How re-indenting a text ends, which a run has read in a directory. -/
structure Reindents (m : Mode) (text : String) (output : Option String) (check : Bool) (d : δ) (o : Outcome δ) :
    Prop where
  /-- A check says whether the text is indented, and writes nothing. -/
  checked : check = true → o.exit = (if m.reindent text = text then 0 else 1) ∧ o.directory = d
  /-- Without an output the result is printed. -/
  printed : check = false → output = none → o.exit = 0 ∧ o.stdout = m.reindent text ∧ o.directory = d
  /-- The result is written to the output, and it is read back there if files can be read back. -/
  saved : check = false → ∀ path ∈ output, (FileSystem.write d path (m.reindent text)).1 = .ok () →
    o.exit = 0 ∧ o.stdout = "" ∧ o.directory = (FileSystem.write d path (m.reindent text)).2 ∧
      (ReadsBack δ → FileSystem.read o.directory path = .ok (m.reindent text))
  /-- An output that cannot be written makes the run fail. -/
  unsaved : check = false → ∀ path ∈ output, ∀ f, (FileSystem.write d path (m.reindent text)).1 = .error f → o.exit = 1

lemma reindents_run {m : Mode} {input text : String} {output : Option String} {check : Bool}
    (hargs : Request.ofArguments? args = some (.run s (.indent input output check)))
    (h : ((start d).exec s.mode).1 = .ok m) (hr : FileSystem.read d input = .ok text) :
    Reindents m text output check d (run color args d) := by
  rw [run_of_mode hargs h, exec_perform_indent hr]
  refine ⟨?_, ?_, ?_, ?_⟩
  · rintro rfl
    rw [if_pos rfl]
    by_cases hi : m.reindent text = text
    · rw [if_pos hi, if_pos hi]
      exact ⟨rfl, rfl⟩
    · rw [if_neg hi, if_neg hi]
      exact ⟨rfl, rfl⟩
  · rintro rfl rfl
    exact ⟨rfl, String.empty_append, rfl⟩
  · rintro rfl path hpath hok
    obtain rfl : output = some path := hpath
    simp only [Bool.false_eq_true, if_false, Option.elim_some, exec_save, World.directory_noting, start, hok]
    exact ⟨rfl, rfl, rfl, fun hback => hback d path _ hok⟩
  · rintro rfl path hpath f hf
    obtain rfl : output = some path := hpath
    simp only [Bool.false_eq_true, if_false, Option.elim_some, exec_save, World.directory_noting, start, hf]
    rfl

end Runs

end CommandLine

end GoLayout
