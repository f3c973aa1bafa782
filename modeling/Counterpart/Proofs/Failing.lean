import Counterpart.Command.Run
import Counterpart.Proofs.Results

/-!
Commands that fail. Everything that can go wrong before a file is opened leaves all files alone, and so does a file
that cannot be opened. A text that cannot be encoded is noticed later: its file is there by then, and empty. Main
statement: a command that fails has changed a file just if it came to that.
-/
namespace Counterpart

variable {d : Directory} {place : Place}

/-! ## Writing -/

theorem SurrogateRun.isSome_from?_iff (position : Nat) (t : Text) :
    (from? position t).isSome ↔ ∃ c ∈ t, c.isSurrogate := by
  induction t generalizing position with
  | nil => simp [from?]
  | cons c rest ih => cases surrogate : c.isSurrogate <;> simp [from?, surrogate, ih]

namespace Directory

/-- A file is written at the place if the path is given. -/
structure Opens (d : Directory) (written : Text) (place : Place) : Prop where
  located : d.locate written = .ok place
  noFolder : d.hasFolder place = false
  asFile : wantsFolder written = false

theorem file?_put (d : Directory) (place other : Place) (content : Text) :
    (d.put place content).file? other =
      if other = place ∧ place.isSink = false then some content else d.file? other := by
  rw [put]
  cases sink : place.isSink with
  | true => simp
  | false =>
    rw [if_neg Bool.false_ne_true, file?, file?]
    by_cases same : other = place
    · simp [same, sink, Keyed.get?_set_self]
    · simp [same, Keyed.get?_set_of_ne same]

theorem write_of_not_opens {written : Text} (closed : ∀ place, ¬ d.Opens written place) (content : Text) :
    ∃ fault, d.write written content = (d, some fault) := by
  unfold write
  split
  next => exact ⟨_, rfl⟩
  next place located =>
    split
    next => exact ⟨_, rfl⟩
    next noFolder =>
      split
      next => exact ⟨_, rfl⟩
      next asFile => exact absurd ⟨located, by simpa using noFolder, by simpa using asFile⟩ (closed place)

theorem write_of_opens {written : Text} (opens : d.Opens written place) (content : Text) :
    (∃ run, SurrogateRun.of? content = some run ∧ d.write written content = (d.put place [], some (.unencodable run))) ∨
    SurrogateRun.of? content = none ∧ d.write written content = (d.put place content, none) := by
  cases found : SurrogateRun.of? content <;> simp [write, opens.located, opens.noFolder, opens.asFile, found]

end Directory

/-! ## Commands -/

namespace Command

def Outcome.Failed (o : Outcome) : Prop := o.exitCode ≠ 0 ∨ o.fault?.isSome

namespace Generate

variable {g : Generate}

def Makes (g : Generate) (d : Directory) (text : Text) : Prop :=
  ∃ mode warnings, Mode.ofWord? g.mode = some mode ∧ load d g.input >>= generated g mode = .ok (text, warnings)

/-- A text is made that cannot be encoded, and a file for it is opened at the place. -/
def Spoils (g : Generate) (d : Directory) (place : Place) : Prop :=
  ∃ text, g.Makes d text ∧ d.Opens g.output place ∧ ∃ c ∈ text, c.isSurrogate

theorem generateFile_of_makes {text : Text} (makes : g.Makes d text) {after : Directory} {fault? : Option FileFault}
    (written : d.write g.output text = (after, fault?)) :
    (generateFile g d).2 = after ∧ ((generateFile g d).1.Failed → fault?.isSome) := by
  obtain ⟨mode, warnings, known, done⟩ := makes
  cases fault? <;> simp [generateFile, known, done, written, Outcome.Failed]

theorem generateFile_of_not_makes (makes : ∀ text, ¬ g.Makes d text) : (generateFile g d).2 = d := by
  unfold generateFile
  split
  next => rfl
  next mode known =>
    split
    next => rfl
    next text warnings done => exact absurd ⟨mode, warnings, known, done⟩ (makes text)

/-- A failure leaves all as it was, unless a file was opened for a text that cannot be encoded. -/
theorem generateFile_of_failed (failed : (generateFile g d).1.Failed) :
    ((∀ place, ¬ g.Spoils d place) ∧ (generateFile g d).2 = d) ∨
    ∃ place, g.Spoils d place ∧ (generateFile g d).2 = d.put place [] := by
  by_cases made : ∃ text, g.Makes d text
  · obtain ⟨text, makes⟩ := made
    by_cases opened : ∃ place, d.Opens g.output place
    · obtain ⟨place, opens⟩ := opened
      rcases Directory.write_of_opens opens text with ⟨run, found, written⟩ | ⟨-, written⟩
      · have surrogate := (SurrogateRun.isSome_from?_iff 0 text).mp (Option.isSome_iff_exists.mpr ⟨run, found⟩)
        exact .inr ⟨place, ⟨text, makes, opens, surrogate⟩, (generateFile_of_makes makes written).1⟩
      · exact absurd ((generateFile_of_makes makes written).2 failed) Bool.false_ne_true
    · obtain ⟨fault, written⟩ := Directory.write_of_not_opens (not_exists.mp opened) text
      exact .inl ⟨fun place spoils => opened ⟨place, spoils.choose_spec.2.1⟩, (generateFile_of_makes makes written).1⟩
  · refine .inl ⟨fun place spoils => made ⟨_, spoils.choose_spec.1⟩, generateFile_of_not_makes (not_exists.mp made)⟩

end Generate

def Spoils (environment? : Option Text) (args : List Text) (d : Directory) (place : Place) : Prop :=
  ∃ g, task environment? args = .ok (.generate g) ∧ g.Spoils d place

variable {environment? : Option Text} {args : List Text}

theorem Spoils.unique {other : Place} (also : Spoils environment? args d other)
    (spoils : Spoils environment? args d place) : other = place := by
  obtain ⟨g, read, -, -, opens, -⟩ := spoils
  obtain ⟨g', readToo, -, -, opensToo, -⟩ := also
  cases read.symm.trans readToo
  exact Except.ok.inj (opensToo.located.symm.trans opens.located)

theorem run_of_failed (noPackage : ∀ output name, task environment? args ≠ .ok (.support output name))
    (failed : (run environment? args d).1.Failed) :
    ((∀ place, ¬ Spoils environment? args d place) ∧ (run environment? args d).2 = d) ∨
    ∃ place, Spoils environment? args d place ∧ (run environment? args d).2 = d.put place [] := by
  cases read : task environment? args with
  | error refusal =>
    have kept : (run environment? args d).2 = d := by rw [run, read]
    refine .inl ⟨fun place spoils => ?_, kept⟩
    cases read.symm.trans spoils.choose_spec.1
  | ok t =>
    have ran : (run environment? args d).2 = (t.run d).2 := by rw [run, read]
    cases t with
    | support output name => exact absurd read (noPackage output name)
    | info input json =>
      refine .inl ⟨fun place spoils => ?_, ran⟩
      cases read.symm.trans spoils.choose_spec.1
    | generate g =>
      have failedToo : (generateFile g d).1.Failed := by simpa [run, read, Task.run, Outcome.Failed] using failed
      rcases Generate.generateFile_of_failed failedToo with ⟨none, kept⟩ | ⟨place, spoils, cut⟩
      · refine .inl ⟨fun place spoils => ?_, ran.trans kept⟩
        obtain ⟨g', same, spoils⟩ := spoils
        cases read.symm.trans same
        exact none place spoils
      · exact .inr ⟨place, ⟨g, read, spoils⟩, ran.trans cut⟩

/-- A command that fails, and was not to lay out the support package, leaves all files and folders as they were,
unless it came to a text that cannot be encoded: the file for that text is empty then. So files have changed just if
it was not empty before. -/
theorem files_after_failure (noPackage : ∀ output name, task environment? args ≠ .ok (.support output name))
    (failed : (run environment? args d).1.Failed) :
    (∀ place, ¬ Spoils environment? args d place → (run environment? args d).2.file? place = d.file? place) ∧
    (∀ place, Spoils environment? args d place → (run environment? args d).2.file? place = some []) ∧
    (run environment? args d).2.folders = d.folders ∧
    ((∀ place, (run environment? args d).2.file? place = d.file? place) ↔
      ∀ place, Spoils environment? args d place → d.file? place = some []) := by
  rcases run_of_failed noPackage failed with ⟨none, kept⟩ | ⟨place, spoils, cut⟩
  · rw [kept]
    exact ⟨fun _ _ => rfl, fun place spoils => absurd spoils (none place), rfl,
      iff_of_true (fun _ => rfl) fun place spoils => absurd spoils (none place)⟩
  · have emptied : ∀ other, Spoils environment? args d other → (d.put place []).file? other = some [] := by
      intro other also
      rw [also.unique spoils, Directory.file?_put]
      cases sink : place.isSink <;> simp [Directory.file?, sink]
    have others : ∀ other, ¬ Spoils environment? args d other → (d.put place []).file? other = d.file? other := by
      intro other whole
      have differs : ¬ (other = place ∧ place.isSink = false) := fun same => whole (same.1 ▸ spoils)
      rw [Directory.file?_put, if_neg differs]
    rw [cut]
    refine ⟨others, emptied, ?_, fun same other also => same other ▸ emptied other also, fun empty other => ?_⟩
    · rw [Directory.put]
      split <;> rfl
    · by_cases also : Spoils environment? args d other
      · rw [emptied other also, empty other also]
      · exact others other also

def desk : Directory where
  files := [
    (⟨.here, ["lamp.json"]⟩, "\x7b\"preprocessor_directives\": [\"\\ud800\"]\x7d"),
    (⟨.here, ["lamp.h"]⟩, "// as it was before")]

def deskArguments : List Text := ["gen", "-l", "cppqt", "-i", "lamp.json", "-o", "lamp.h"]

theorem files_after_failure_desk : (run none deskArguments desk).1.Failed ∧
    ∃ place, Spoils none deskArguments desk place ∧ desk.file? place ≠ some [] := by
  have noPackage : ∀ output name, task none deskArguments ≠ .ok (.support output name) := by
    have read : task none deskArguments = .ok (.generate ⟨"cppqt", "lamp.json", "lamp.h", "merged", none, false⟩) := by
      decide +kernel
    intro output name isSupport
    cases read.symm.trans isSupport
  have failed : (run none deskArguments desk).1.Failed := .inl (by decide +kernel)
  obtain ⟨-, -, -, kept_iff⟩ := files_after_failure noPackage failed
  have changed : (run none deskArguments desk).2.file? ⟨.here, ["lamp.h"]⟩ ≠ desk.file? ⟨.here, ["lamp.h"]⟩ := by
    decide +kernel
  have spoiled := mt kept_iff.mpr fun same => changed (same _)
  simp only [not_forall] at spoiled
  obtain ⟨place, spoils, full⟩ := spoiled
  exact ⟨failed, place, spoils, full⟩

end Command
end Counterpart
