import Counterpart.Emit.Generate
import Counterpart.Proofs.Results

/-!
Files that hold one side of the classes or both. What is written about a side of a class is the same in every mode, so that
a replica and a source that are made apart from each other belong together as if they had been made at once.
-/
namespace Counterpart

variable {mode : Mode}

/-! ## Texts in the order of a mode -/

def Text.written (ls : List Text) : Text := Text.lines (ls.map Text.shown)

@[simp] theorem Text.written_nil : Text.written [] = [] := rfl

@[simp] theorem Text.written_append (ls others : List Text) :
    Text.written (ls ++ others) = Text.written ls ++ Text.written others := by
  simp [Text.written, Text.lines]

/-- The texts of the two sides of classes as a mode puts them one after another. -/
def Mode.arranged : Mode → List (Text × Text) → Text
  | .replica, sides => (sides.map fun side => side.1).flatten
  | .source, sides => (sides.map fun side => side.2).flatten
  | .merged, sides => (sides.map fun side => side.1 ++ side.2).flatten

theorem Mode.written_sides (mode : Mode) (replica source : ClassDecl → List Text) (classes : List ClassDecl) :
    Text.written (classes.flatMap fun c =>
      (if mode.hasReplica then replica c else []) ++ (if mode.hasSource then source c else [])) =
      mode.arranged (classes.map fun c => (Text.written (replica c), Text.written (source c))) := by
  induction classes with
  | nil => cases mode <;> rfl
  | cons c rest ih =>
    rw [List.flatMap_cons, Text.written_append, ih]
    cases mode <;> simp [Mode.arranged, Mode.hasReplica, Mode.hasSource]

/-! ## Modules and headers -/

def PythonModule.sideTexts (i : Interface) (c : ClassDecl) : Text × Text :=
  (Text.written (replica i c), Text.written (sourceSide i c))

def QtHeader.sideTexts (i : Interface) (c : ClassDecl) : Text × Text :=
  (Text.written (roleClass i c .replica), Text.written (sourceSide i c))

theorem PythonModule.render_eq (i : Interface) (mode : Mode) (support : Text) :
    render i mode support = Text.written (prelude i support) ++ mode.arranged (i.classes.map (sideTexts i)) :=
  (Text.written_append _ _).trans (congrArg _ (mode.written_sides _ _ _))

theorem QtHeader.render_eq (i : Interface) (mode : Mode) (file? : Option Text) :
    render i mode file? =
      Text.written (opening (guard? file?)) ++ Text.written (includeLines mode) ++ Text.written (shared i) ++
        mode.arranged (i.classes.map (sideTexts i)) ++ Text.written (closing i (guard? file?)) := by
  have sides : Text.written (i.classes.flatMap (sides i mode)) = mode.arranged (i.classes.map (sideTexts i)) :=
    mode.written_sides _ _ _
  rw [← sides]
  simp only [← Text.written_append, List.append_assoc]
  simp [render, Text.written, Text.blocks]

/-! ## Drafts -/

theorem PythonModule.eq_fill_of_ofDraft {d : Draft} {made : Interface × List DefaultWarning}
    (done : ofDraft d mode = .ok made) : made.1 = d.fill := by
  unfold ofDraft at done
  split at done
  next => cases done
  next =>
    split at done
    next => cases done
    next =>
      cases done
      rfl

theorem QtHeader.eq_fill_of_ofDraft {d : Draft} {i : Interface} (done : ofDraft d mode = .ok i) : i = d.fill := by
  unfold ofDraft at done
  split at done
  next =>
    cases done
    rfl
  next => cases done

theorem PythonModule.isOk_ofDraft_iff (d : Draft) (mode : Mode) :
    (ofDraft d mode).isOk ↔
      d.typeGap? = none ∧ ∀ c ∈ d.classes.present, classGap? d.fill mode c = none := by
  unfold ofDraft
  cases d.typeGap? with
  | some gap => simp [Except.isOk, Except.toBool]
  | none =>
    cases found : d.classes.present.findSome? (classGap? d.fill mode) with
    | some gap =>
      obtain ⟨c, among, gap⟩ := List.exists_of_findSome?_eq_some found
      simp only [Except.isOk, Except.toBool, true_and, Bool.false_eq_true, false_iff]
      exact fun complete => by simp [complete c among] at gap
    | none => simpa [Except.isOk, Except.toBool] using List.findSome?_eq_none_iff.1 found

theorem QtHeader.isOk_ofDraft_iff (d : Draft) (mode : Mode) : (ofDraft d mode).isOk ↔ gap? d mode = none := by
  unfold ofDraft
  cases gap? d mode <;> simp [Except.isOk, Except.toBool]

theorem PythonModule.isOk_merged_iff (d : Draft) :
    (ofDraft d .merged).isOk ↔ (ofDraft d .replica).isOk ∧ (ofDraft d .source).isOk := by
  have gap (c : Draft.ClassDecl) : classGap? d.fill .merged c = none ↔
      classGap? d.fill .replica c = none ∧ classGap? d.fill .source c = none := by
    simp only [classGap?, Option.orElse_eq_orElse, Option.orElse_eq_or, Option.or_eq_none_iff]
    grind [Mode.hasReplica]
  simp only [isOk_ofDraft_iff, gap]
  grind

theorem QtHeader.isOk_merged_iff (d : Draft) :
    (ofDraft d .merged).isOk ↔ (ofDraft d .replica).isOk ∧ (ofDraft d .source).isOk := by
  simp only [isOk_ofDraft_iff, gap?, Option.orElse_eq_orElse, Option.orElse_eq_or, Option.or_eq_none_iff,
    List.findSome?_eq_none_iff]
  grind [Mode.hasSource]

/-- What is written about a side of a class does not depend on the mode. Where a module can be made from a draft, it is a
text that all modes have in common, followed by the texts of those sides of the classes that the mode asks for, class by
class; the same holds of headers, which end alike too and begin alike but for lines that include files of the package
for remote objects. Both sides can be made at once just if each can be made alone. -/
theorem side_texts_same_in_every_mode (d : Draft) (support : Text) (file? : Option Text) :
    (∀ mode, (PythonModule.ofDraft d mode).map (fun made => PythonModule.render made.1 mode support) =
      (PythonModule.ofDraft d mode).map fun _ =>
        Text.written (PythonModule.prelude d.fill support) ++
          mode.arranged (d.fill.classes.map (PythonModule.sideTexts d.fill))) ∧
    (∀ mode, ∃ files : List Text, (QtHeader.ofDraft d mode).map (fun i => QtHeader.render i mode file?) =
      (QtHeader.ofDraft d mode).map fun _ =>
        Text.written (QtHeader.opening (QtHeader.guard? file?)) ++
          Text.lines (files.map fun file => Text.concat ["#include <QtRemoteObjects/", file, ">"]) ++
          Text.written (QtHeader.shared d.fill) ++ mode.arranged (d.fill.classes.map (QtHeader.sideTexts d.fill)) ++
          Text.written (QtHeader.closing d.fill (QtHeader.guard? file?))) ∧
    ((PythonModule.ofDraft d .merged).isOk ↔
      (PythonModule.ofDraft d .replica).isOk ∧ (PythonModule.ofDraft d .source).isOk) ∧
    ((QtHeader.ofDraft d .merged).isOk ↔
      (QtHeader.ofDraft d .replica).isOk ∧ (QtHeader.ofDraft d .source).isOk) := by
  refine ⟨fun mode => ?_, fun mode => ⟨QtHeader.modeIncludes mode, ?_⟩, PythonModule.isOk_merged_iff d,
    QtHeader.isOk_merged_iff d⟩
  · cases done : PythonModule.ofDraft d mode with
    | error e => rfl
    | ok made => simp [PythonModule.eq_fill_of_ofDraft done, PythonModule.render_eq]
  · have includes : Text.written (QtHeader.includeLines mode) = Text.lines (QtHeader.includeLines mode) := by
      cases mode <;> decide
    cases done : QtHeader.ofDraft d mode with
    | error e => rfl
    | ok i =>
      rw [ok_map, ok_map, QtHeader.eq_fill_of_ofDraft done, QtHeader.render_eq, includes]
      rfl

end Counterpart
