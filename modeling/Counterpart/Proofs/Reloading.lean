import Counterpart.Draft.Check
import Counterpart.Proofs.Results

/-!
Drafts that are written and read again. Reading takes values of many kinds for a field, but what it makes of them is of
one kind, which is read as it stands. So a draft that was read is read again from what is written of it, and loading
twice is loading once.
-/
namespace Counterpart.Draft

variable {fields members : Fields} {value : Json} {name : Text} {n : Whole}

/-! ## Values -/

/-- What is written of a value is not the null that leaves it out, and is read as that value. -/
structure Rereads {α : Type} (decode : Json → Except LoadError α) (encode : α → Json) (a : α) : Prop where
  given : encode a ≠ .null
  read : decode (encode a) = .ok a

theorem rereads_text (t : Text) : Rereads decodeText .str t := ⟨by simp, rfl⟩

theorem rereads_truth (b : Bool) : Rereads decodeTruth .bool b := ⟨by simp, rfl⟩

theorem rereads_access (a : Access) : Rereads decodeAccess (fun a => .str a.word) a := by
  refine ⟨by simp, ?_⟩
  cases a <;> rfl

theorem rereads_texts (ts : List Text) : Rereads decodeTexts (fun ts => .arr (ts.map .str)) ts := by
  refine ⟨by simp, ?_⟩
  simp [decodeTexts, itemsOf, Json.text, Function.comp_def]

theorem ne_absent_of_decodeWhole (read : decodeWhole value = .ok n) : n ≠ .absent := by
  rintro rfl
  cases value with
  | float d =>
    rw [decodeWhole] at read
    split at read <;> cases read
  | str t =>
    rw [decodeWhole] at read
    split at read <;> cases read
  | _ => cases read

theorem rereads_whole (read : decodeWhole value = .ok n) : Rereads decodeWhole encodeWhole n := by
  have there := ne_absent_of_decodeWhole read
  cases n with
  | number i => exact ⟨by simp [encodeWhole], rfl⟩
  | truth b => exact ⟨by simp [encodeWhole], rfl⟩
  | absent => exact absurd rfl there

/-! ## Fields -/

section

variable {α : Type} {v : Option α}

theorem source_of_field {default? : Option α} {decode : Json → Except LoadError α} {a : α}
    (read : field fields name default? decode = .ok (some a)) :
    default? = some a ∨ ∃ value, decode value = .ok a := by
  unfold field at read
  split at read
  next => exact .inl (by simpa using read)
  next => cases read
  next => cases read
  next value _ _ =>
    obtain ⟨b, decoded, same⟩ := of_map_ok read
    cases same
    exact .inr ⟨value, decoded⟩

/-- A field is read from what is written of it: a null where it is absent, and otherwise what its value rereads. -/
theorem field_orNull {default? : Option α} {decode : Json → Except LoadError α} {encode : α → Json}
    (rereads : ∀ a, v = some a → Rereads decode encode a)
    (written : Keyed.get? name members = some (orNull encode v)) : field members name default? decode = .ok v := by
  unfold field
  rw [written]
  cases v with
  | none => rfl
  | some a =>
    obtain ⟨given, read⟩ := rereads a rfl
    simp only [orNull, read, ok_map]

/-- A field that is absent unless it is given is one that is null unless it is given. -/
theorem optionalField_eq (fields : Fields) (name : Text) (decode : Json → Except LoadError α) :
    optionalField fields name decode =
      match Keyed.get? name fields with
      | none => .ok none
      | some _ => field fields name none decode := by
  unfold optionalField field
  cases found : Keyed.get? name fields with
  | none => rfl
  | some value => cases value <;> rfl

theorem optionalField_again {decode : Json → Except LoadError α} {encode : α → Json}
    (read : optionalField fields name decode = .ok v)
    (rereads : ∀ value a, decode value = .ok a → Rereads decode encode a)
    (written : Keyed.get? name members = some (orNull encode v)) : optionalField members name decode = .ok v := by
  rw [optionalField_eq, written]
  refine field_orNull (fun a same => ?_) written
  subst same
  rw [optionalField_eq] at read
  split at read
  next => cases read
  next =>
    obtain other | ⟨value, decoded⟩ := source_of_field read
    · cases other
    · exact rereads value a decoded

theorem field_again {default? : Option α} {decode : Json → Except LoadError α} {encode : α → Json}
    (read : field fields name default? decode = .ok v)
    (rereads : ∀ value a, decode value = .ok a → Rereads decode encode a)
    (start : ∀ a, default? = some a → Rereads decode encode a)
    (written : Keyed.get? name members = some (orNull encode v)) : field members name default? decode = .ok v := by
  refine field_orNull (fun a same => ?_) written
  subst same
  obtain isDefault | ⟨value, decoded⟩ := source_of_field read
  · exact start a isDefault
  · exact rereads value a decoded

end

theorem text_again {default? v : Option Text} (read : field fields name default? decodeText = .ok v)
    (written : Keyed.get? name members = some (orNull .str v)) : field members name default? decodeText = .ok v :=
  field_again read (fun _ t _ => rereads_text t) (fun t _ => rereads_text t) written

theorem access_again {default? v : Option Access} (read : field fields name default? decodeAccess = .ok v)
    (written : Keyed.get? name members = some (orNull (fun a => .str a.word) v)) :
    field members name default? decodeAccess = .ok v :=
  field_again read (fun _ a _ => rereads_access a) (fun a _ => rereads_access a) written

theorem texts_again {default? v : Option (List Text)} (read : field fields name default? decodeTexts = .ok v)
    (written : Keyed.get? name members = some (encodeTexts v)) : field members name default? decodeTexts = .ok v :=
  field_again read (fun _ ts _ => rereads_texts ts) (fun ts _ => rereads_texts ts) written

/-! ## Objects -/

/-- An object that is read is written as an object that is read as the same. -/
def Rewrites {α : Type} (decode : Fields → Except LoadError α) (encode : α → Json) : Prop :=
  ∀ fields a, decode fields = .ok a → ∃ members, encode a = .obj members ∧ decode members = .ok a

section

variable {α : Type} {decode : Fields → Except LoadError α} {encode : α → Json}

theorem Rewrites.item (rewrites : Rewrites decode encode) {item : Option α}
    (read : decodeItem decode value = .ok item) : decodeItem decode (orNull encode item) = .ok item := by
  cases item with
  | none => rfl
  | some a =>
    have decoded : ∃ fields, decode fields = .ok a := by
      unfold decodeItem at read
      split at read
      next => cases read
      next =>
        obtain ⟨b, decoded, same⟩ := of_map_ok read
        obtain ⟨fields, -, decoded⟩ := of_bind_ok decoded
        cases same
        exact ⟨fields, decoded⟩
    obtain ⟨fields, decoded⟩ := decoded
    obtain ⟨members, written, read⟩ := rewrites fields a decoded
    rw [orNull, written]
    simp only [decodeItem, fieldsOf, ok_bind, read, ok_map]

theorem Rewrites.items (rewrites : Rewrites decode encode) {items : List (Option α)}
    (read : decodeItems decode value = .ok items) :
    Rereads (decodeItems decode) (fun items => .arr (items.map (orNull encode))) items := by
  refine ⟨by simp, ?_⟩
  obtain ⟨values, -, mapped⟩ := of_bind_ok read
  have each := forall₂_of_mapM_ok mapped
  simp only [decodeItems, itemsOf, ok_bind]
  clear read mapped
  induction each with
  | nil => rfl
  | cons first _ ih =>
    rw [List.map_cons, List.mapM_cons, rewrites.item first, ok_bind, ih]
    rfl

theorem Rewrites.again (rewrites : Rewrites decode encode) {default? : Option (List (Option α))} {items : Items α}
    (read : field fields name default? (decodeItems decode) = .ok items) (start : default?.getD [] = [])
    (written : Keyed.get? name members = some (encodeItems encode items)) :
    field members name default? (decodeItems decode) = .ok items := by
  refine field_again read (fun value a => rewrites.items) (fun a isDefault => ?_) written
  rw [isDefault] at start
  obtain rfl : a = [] := start
  exact ⟨by simp, rfl⟩

end

theorem Parameter.rewrites : Rewrites Parameter.decode Parameter.encode := by
  intro fields p read
  obtain ⟨type, isType, read⟩ := of_bind_ok read
  obtain ⟨name, isName, read⟩ := of_bind_ok read
  cases read
  refine ⟨_, rfl, ?_⟩
  rw [Parameter.decode, text_again isType rfl, ok_bind, text_again isName rfl]
  rfl

theorem Operation.rewrites : Rewrites Operation.decode Operation.encode := by
  intro fields op read
  obtain ⟨name, isName, read⟩ := of_bind_ok read
  obtain ⟨params, areParams, read⟩ := of_bind_ok read
  obtain ⟨returnType, isReturnType, read⟩ := of_bind_ok read
  cases read
  refine ⟨_, rfl, ?_⟩
  rw [Operation.decode, text_again isName rfl, ok_bind, Parameter.rewrites.again areParams rfl rfl, ok_bind,
    text_again isReturnType rfl]
  rfl

theorem Property.rewrites : Rewrites Property.decode Property.encode := by
  intro fields p read
  obtain ⟨type, isType, read⟩ := of_bind_ok read
  obtain ⟨name, isName, read⟩ := of_bind_ok read
  obtain ⟨access, isAccess, read⟩ := of_bind_ok read
  obtain ⟨default, isDefault, read⟩ := of_bind_ok read
  cases read
  refine ⟨_, rfl, ?_⟩
  rw [Property.decode, text_again isType rfl, ok_bind, text_again isName rfl, ok_bind, access_again isAccess rfl,
    ok_bind, text_again isDefault rfl]
  rfl

theorem Enumerator.rewrites : Rewrites Enumerator.decode Enumerator.encode := by
  intro fields e read
  obtain ⟨name, isName, read⟩ := of_bind_ok read
  obtain ⟨value, isValue, read⟩ := of_bind_ok read
  cases read
  refine ⟨_, rfl, ?_⟩
  rw [Enumerator.decode, text_again isName rfl, ok_bind,
    field_again isValue (fun _ _ => rereads_whole) (fun _ isDefault => nomatch isDefault) rfl]
  rfl

theorem EnumDecl.rewrites : Rewrites EnumDecl.decode EnumDecl.encode := by
  intro fields e read
  obtain ⟨name, isName, read⟩ := of_bind_ok read
  obtain ⟨enumerators, areEnumerators, read⟩ := of_bind_ok read
  obtain ⟨signed, isSigned, read⟩ := of_bind_ok read
  obtain ⟨max, isMax, read⟩ := of_bind_ok read
  cases read
  refine ⟨_, rfl, ?_⟩
  rw [EnumDecl.decode, text_again isName rfl, ok_bind, Enumerator.rewrites.again areEnumerators rfl rfl, ok_bind,
    optionalField_again isSigned (fun _ b _ => rereads_truth b) rfl, ok_bind,
    optionalField_again isMax (fun _ _ => rereads_whole) rfl]
  rfl

theorem RecordDecl.rewrites : Rewrites RecordDecl.decode RecordDecl.encode := by
  intro fields r read
  obtain ⟨name, isName, read⟩ := of_bind_ok read
  obtain ⟨attributes, areAttributes, read⟩ := of_bind_ok read
  cases read
  refine ⟨_, rfl, ?_⟩
  rw [RecordDecl.decode, text_again isName rfl, ok_bind, Parameter.rewrites.again areAttributes rfl rfl]
  rfl

theorem ClassDecl.rewrites : Rewrites ClassDecl.decode ClassDecl.encode := by
  intro fields c read
  obtain ⟨name, isName, read⟩ := of_bind_ok read
  obtain ⟨properties, areProperties, read⟩ := of_bind_ok read
  obtain ⟨signals, areSignals, read⟩ := of_bind_ok read
  obtain ⟨slots, areSlots, read⟩ := of_bind_ok read
  obtain ⟨enums, areEnums, read⟩ := of_bind_ok read
  cases read
  refine ⟨_, rfl, ?_⟩
  rw [ClassDecl.decode, text_again isName rfl, ok_bind, Property.rewrites.again areProperties rfl rfl, ok_bind,
    Operation.rewrites.again areSignals rfl rfl, ok_bind, Operation.rewrites.again areSlots rfl rfl, ok_bind,
    EnumDecl.rewrites.again areEnums rfl rfl]
  rfl

/-! ## Drafts -/

theorem decode_encode {document : Json} {d : Draft} (read : decode document = .ok d) : decode d.encode = .ok d := by
  obtain ⟨fields, -, read⟩ := of_bind_ok read
  obtain ⟨classes, areClasses, read⟩ := of_bind_ok read
  obtain ⟨records, areRecords, read⟩ := of_bind_ok read
  obtain ⟨enums, areEnums, read⟩ := of_bind_ok read
  obtain ⟨usedEnums, areUsed, read⟩ := of_bind_ok read
  obtain ⟨directives, areDirectives, read⟩ := of_bind_ok read
  cases read
  rw [decode, encode, fieldsOf, ok_bind, ClassDecl.rewrites.again areClasses rfl rfl, ok_bind,
    RecordDecl.rewrites.again areRecords rfl rfl, ok_bind, EnumDecl.rewrites.again areEnums rfl rfl, ok_bind,
    texts_again areUsed rfl, ok_bind, texts_again areDirectives rfl]
  rfl

/-- What is written of a draft that was loaded, with every field given, is loaded as that draft: from the document, and
from any text that is read as the document. -/
theorem load_encode {document : Json} {d : Draft} (loaded : ofJson document = .ok d) :
    ofJson d.encode = .ok d ∧
      ∀ text levels, Json.read text levels = .ok d.encode → load text levels = .ok d := by
  obtain ⟨read, decoded, rest⟩ := of_bind_ok loaded
  obtain ⟨_, checked, same⟩ := of_bind_ok rest
  cases same
  have again : ofJson d.encode = .ok d := by rw [ofJson, decode_encode decoded, ok_bind, checked]; rfl
  refine ⟨again, fun text levels written => ?_⟩
  rw [load, written]
  exact again

/-- A definition with values of other kinds than its fields have, and with a field that is none. -/
def looseDocument : Json :=
  .obj [("classes", .arr [.obj [("name", .int 7), ("owner", .str "nobody"), ("slots", .str []),
      ("properties", .arr [.obj [("type", .null), ("name", .str "level"), ("mode", .str "readonly")]]),
      ("enums", .arr [.obj [("name", .str "Mode"), ("is_signed", .str "false"), ("max", .bool true),
        ("params", .arr [.obj [("name", .str "On"), ("value", .str " 1_2 ")]])]])]]),
    ("enum_uses", .obj [("Qt::Edge", .bool false)]), ("preprocessor_directives", .null)]

def looseDraft : Draft where
  classes := some [some {
    name := some "7"
    properties := some [some ⟨none, some "level", some .readonly, some []⟩]
    signals := some []
    slots := some []
    enums := some [some ⟨some "Mode", some [some ⟨some "On", some (.number 12)⟩], some true, some (.truth true)⟩] }]
  records := some []
  enums := some []
  usedEnums := some ["Qt::Edge"]
  directives := none

theorem load_encode_loose : ofJson looseDocument = .ok looseDraft ∧ ofJson looseDraft.encode = .ok looseDraft :=
  ⟨rfl, (@load_encode looseDocument _ rfl).1⟩

end Counterpart.Draft
