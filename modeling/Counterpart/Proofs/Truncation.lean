import Counterpart.Proofs.Refusal

/-!
Bytes that are cut off are refused. What is read takes as many bytes as were packed, so that fewer of them would have
to be read in place of all.
-/
namespace Counterpart

variable {b : Bytes} {ownBytes : Except Fault Bytes} {types : List Text} {values : List Value} {format : NumberFormat}
variable {a : Parameter} {type : Text} {v : Value}

/-! ## What is read spans what was packed -/

/-- From the bytes, wherever they stand, nothing is read that takes fewer or more than all of them. -/
def Reading.Spans {α : Type} (read : Reading α) (b : Bytes) : Prop :=
  ∀ ⦃data : Bytes⦄ ⦃offset : Nat⦄ ⦃a : α⦄ ⦃n : Nat⦄, b.Stands data offset → read data offset = .ok (a, n) → n = b.length

theorem NumberFormat.length_of_pack (packed : format.pack v = .ok b) : b.length = format.size := by
  have integer {i : Int} (packed : (format.packInteger i).mapError Fault.layout = .ok b) : b.length = format.size := by
    have packed := of_mapError_ok packed
    unfold packInteger at packed
    split at packed
    next => cases packed
    next =>
      split at packed <;> cases packed
      exact length_bigEndian _ _
  have real {d : Double} (floating : format = .single ∨ format = .double) (packed : format.packReal? d = some b) :
      b.length = format.size := by
    rcases floating with rfl | rfl
    · obtain ⟨bits, -, rfl⟩ := Option.map_eq_some_iff.mp packed
      exact length_bigEndian _ _
    · cases packed
      exact length_bigEndian _ _
  have floating (isReal : format = .single ∨ format = .double) (packed : format.packFloating v = .ok b) :
      b.length = format.size := by
    unfold packFloating at packed
    split at packed
    next =>
      split at packed <;> cases packed
      exact real isReal ‹_›
    next =>
      split at packed
      next => cases packed
      next =>
        split at packed <;> cases packed
        exact real isReal ‹_›
  cases format with
  | truth =>
    cases packed
    rfl
  | single => exact floating (.inl rfl) packed
  | double => exact floating (.inr rfl) packed
  | int8 | uint8 | int16 | uint16 | int32 | uint32 | int64 | uint64 =>
    simp only [pack] at packed
    split at packed
    next => cases packed
    next => exact integer packed

private theorem Value.length_toBytes {n : Nat} (counted : v.length = .ok n)
    (content : v.toBytes = .ok b) : b.length = n := by
  have items {items : List Value} {b : Bytes} (content : toByteList items = .ok b) : b.length = items.length := by
    induction items generalizing b with
    | nil =>
      cases content
      rfl
    | cons item rest ih =>
      rw [toByteList] at content
      split at content
      next => cases content
      next =>
        obtain ⟨later, isLater, rfl⟩ := of_map_ok content
        simp [ih isLater]
  cases v with
  | bytes b =>
    cases counted
    cases content
    rfl
  | list items' | tuple items' =>
    cases counted
    exact items content
  | text t => cases content
  | _ => cases counted

namespace Sized

private theorem spans_readBytes {content : Bytes} (small : content.length < nothing)
    (packed : packBytesValue (.bytes content) = .ok b) : Reading.Spans readBytes b := by
  obtain ⟨_, again, reads⟩ := readBytes_packBytes small
  cases packed.symm.trans again
  intro data offset found n stands done
  cases (reads data offset stands).symm.trans done
  rfl

private theorem spans_readBytes_nothing (packed : packLength nothing = .ok b) : Reading.Spans readBytes b := by
  have isMark : b = bigEndian 4 nothing := by
    have digits : packLength nothing = .ok (bigEndian 4 nothing) := by
      rw [packLength, NumberFormat.packInteger_natCast rfl (by decide)]
      rfl
    cases digits.symm.trans packed
    rfl
  intro data offset found n stands done
  have window := stands.window
  rw [isMark, length_bigEndian] at window
  have absent : readLength data offset = .ok none := by
    rw [readLength, window]
    simp [ofBigEndian_bigEndian 4 nothing (by decide)]
  rw [readBytes, absent] at done
  cases done
  rw [isMark, length_bigEndian]

private theorem spans_readBytesValue (fits : ∀ b, v.toBytes = .ok b → b.length < nothing)
    (packed : packBytesValue v = .ok b) : Reading.Spans readBytes b := by
  unfold packBytesValue at packed
  split at packed
  next => exact spans_readBytes_nothing packed
  next =>
    obtain ⟨n, counted, packed⟩ := of_bind_ok packed
    obtain ⟨length, packedLength, packed⟩ := of_bind_ok packed
    obtain ⟨content, isContent, packed⟩ := of_bind_ok packed
    cases packed
    obtain rfl := Value.length_toBytes counted isContent
    exact spans_readBytes (fits content isContent) (by simp [packBytesValue, Value.length, Value.toBytes, packedLength])

/-- The text of a value is short enough for its length. -/
def TextFits (v : Value) : Prop := ∀ t units, v = .text t → Utf16.encode t = .ok units → units.length < nothing

private theorem spans_readText (fits : TextFits v) (packed : packTextValue v = .ok b) : Reading.Spans readText b := by
  have bytes : Reading.Spans readBytes b := by
    unfold packTextValue at packed
    split at packed
    next => exact spans_readBytes_nothing packed
    next t =>
      obtain ⟨units, encoded, packed⟩ := of_bind_ok packed
      exact spans_readBytes (fits t units rfl (of_mapError_ok encoded)) packed
    next => cases packed
  intro data offset t n stands done
  rw [readText_eq] at done
  obtain ⟨⟨content, size⟩, read, done⟩ := of_bind_ok done
  obtain ⟨_, -, done⟩ := of_bind_ok done
  cases done
  exact bytes stands read

private theorem spans_readItems {items : List Value} (fits : ∀ item ∈ items, TextFits item)
    (packed : packTextValues items = .ok b) :
    Reading.Spans (fun data offset => readItems data items.length offset) b := by
  induction items generalizing b with
  | nil =>
    cases packed
    intro data offset ts n _ done
    cases done
    rfl
  | cons item rest ih =>
    obtain ⟨first, packedFirst, packed⟩ := of_bind_ok packed
    obtain ⟨later, packedLater, packed⟩ := of_bind_ok packed
    cases packed
    intro data offset ts n stands done
    obtain ⟨⟨t, size⟩, read, done⟩ := of_bind_ok done
    obtain ⟨⟨others, sizes⟩, readLater, done⟩ := of_bind_ok done
    cases done
    obtain rfl := spans_readText (fits item (by simp)) packedFirst stands.left read
    rw [← Int.natCast_add] at readLater
    obtain rfl := ih (fun item among => fits item (by simp [among])) packedLater stands.right readLater
    rw [List.length_append]

private theorem spans_readTexts
    (fits : ∀ items, v.toItems = .ok items → items.length < nothing ∧ ∀ item ∈ items, TextFits item)
    (packed : packTextsValue v = .ok b) : Reading.Spans readTexts b := by
  obtain ⟨items, has, packed⟩ := of_bind_ok packed
  obtain ⟨few, fits⟩ := fits items has
  obtain ⟨count, packedCount, packed⟩ := of_bind_ok packed
  cases (packLength_eq few).symm.trans packedCount
  obtain ⟨content, packedItems, packed⟩ := of_bind_ok packed
  cases packed
  intro data offset ts n stands done
  rw [readTexts, readLength_eq few stands.left] at done
  simp only [ok_bind, Option.getD_some] at done
  obtain ⟨⟨others, size⟩, read, done⟩ := of_bind_ok done
  cases done
  have standing := stands.right
  rw [length_bigEndian] at standing
  rw [spans_readItems fits packedItems standing read, List.length_append, length_bigEndian]

end Sized

namespace Encoding

/-- The lengths and counts that the bytes of a value begin with are below the one that stands for nothing. -/
def Room : Encoding → Value → Prop
  | .text, v => Sized.TextFits v
  | .bytes, v => ∀ b, v.toBytes = .ok b → b.length < Sized.nothing
  | .texts, v => ∀ items, v.toItems = .ok items → items.length < Sized.nothing ∧ ∀ item ∈ items, Sized.TextFits item
  | _, _ => True

end Encoding

section

variable {registry : Registry} {own : Text → Unpacker}

private theorem spans_number (packed : format.pack v = .ok b) : Reading.Spans (unpackNumber format) b := by
  intro data offset found n _ done
  obtain ⟨_, _, same⟩ := of_map_ok done
  cases same
  exact (NumberFormat.length_of_pack packed).symm

private theorem spans_usedEnum (packed : packUsedEnum v = .ok b) : Reading.Spans (.of unpackUsedEnum) b := by
  obtain ⟨number, -, packed⟩ := of_bind_ok packed
  exact spans_number packed

private theorem spans_builtin {encoding : Encoding} (known : Builtin.encoding? type = some encoding)
    (room : encoding.Room v)
    (packed : packAs registry type v ownBytes = .ok b) : Reading.Spans (.of (unpackAs registry own type)) b := by
  intro data offset found n stands done
  unfold packAs packBy at packed
  unfold Reading.of unpackAs unpackBy at done
  rw [known] at packed done
  cases encoding with
  | number format =>
    rw [Logged.result_of] at done
    exact spans_number (of_mapError_ok packed) stands (of_mapError_ok done)
  | character =>
    rw [Logged.result_of] at done
    obtain ⟨number, -, packed⟩ := of_bind_ok packed
    obtain ⟨_, _, same⟩ := of_map_ok done
    cases same
    exact (NumberFormat.length_of_pack (of_mapError_ok packed)).symm
  | text =>
    rw [Logged.result_of] at done
    obtain ⟨⟨t, size⟩, read, same⟩ := of_map_ok done
    cases same
    exact Sized.spans_readText room packed stands read
  | bytes =>
    rw [Logged.result_of] at done
    obtain ⟨⟨content, size⟩, read, same⟩ := of_map_ok done
    cases same
    exact Sized.spans_readBytesValue room packed stands read
  | texts =>
    rw [Logged.result_of] at done
    obtain ⟨⟨ts, size⟩, read, same⟩ := of_map_ok done
    cases same
    exact Sized.spans_readTexts room packed stands read
  | unsent => cases done

/-- What is read by the name of a type spans what was packed by it, if that holds for the class that is asked. -/
private theorem spans_unpackAs (ofUnit : registry.OfUnit)
    (room : ∀ encoding, Builtin.encoding? type = some encoding → encoding.Room v)
    (asked : ∀ cls, registry.classOf? type = some cls → ownBytes = .ok b → Reading.Spans (.of (own cls)) b)
    (packed : packAs registry type v ownBytes = .ok b) : Reading.Spans (.of (unpackAs registry own type)) b := by
  cases known : Builtin.encoding? type with
  | some encoding => exact spans_builtin known (room encoding known) packed
  | none =>
    cases found : registry.lookup type with
    | none => simp [packAs, packBy, known, found] at packed
    | some entry =>
      obtain ⟨ref, id, codec⟩ := entry
      rcases ofUnit type _ found with isUsed | ⟨isOwn, cls, isClass⟩
      · cases isUsed
        simp only [packAs, packBy, known, found, RegisteredType.pack] at packed
        intro data offset value n stands done
        simp only [Reading.of, unpackAs, unpackBy, known, found, RegisteredType.unpack, Logged.result_mapFault] at done
        exact spans_usedEnum packed stands (of_mapError_ok done)
      · cases isOwn
        cases isClass
        have isClass : registry.classOf? type = some cls := by simp [Registry.classOf?, known, found]
        simp only [packAs, packBy, known, found, RegisteredType.pack] at packed
        intro data offset value n stands done
        simp only [Reading.of, unpackAs_of_classOf isClass, Logged.result_mapFault] at done
        exact asked cls isClass packed stands (of_mapError_ok done)

end

namespace RecordStep

variable {i : Interface} {registry : Registry} {own : Text → Unpacker} {r : RecordDecl} {fields : List PackedField}

private theorem spans_single {read : Unpacker} (spans : Reading.Spans (.of read) b) :
    Reading.Spans (.of fun data offset => do let (v, n) ← read data offset; return ([v], n)) b := by
  intro data offset vs n stands done
  simp only [Reading.of, Logged.result_bind] at done
  obtain ⟨⟨v, size⟩, found, same⟩ := of_bind_ok done
  cases same
  exact spans stands found

private theorem spans_number_step (packed : pack registry r fields (.numbers [(a, format)]) = .ok b) :
    Reading.Spans (.of fun data offset => unpack i registry own r data offset (.numbers [(a, format)])) b := by
  obtain ⟨numbers, found, packed⟩ := of_bind_ok packed
  obtain ⟨⟨v, ownBytes⟩, -, found⟩ := of_bind_ok found
  obtain ⟨_, none, found⟩ := of_bind_ok found
  cases none
  cases found
  obtain ⟨first, packedFirst, packed⟩ := of_bind_ok packed
  cases packed
  intro data offset vs n stands done
  rw [Reading.of_apply] at done
  obtain ⟨_, -, size, -⟩ := unpack_numbers_ok.mp done
  rw [size]
  simp [NumberFormat.length_of_pack packedFirst]

private theorem spans_step (ofUnit : registry.OfUnit)
    (room : ∀ v ownBytes, Keyed.get? a.fieldName fields = some (v, ownBytes) →
      ∀ encoding, Builtin.encoding? a.type = some encoding → encoding.Room v)
    (asked : ∀ v ownBytes, Keyed.get? a.fieldName fields = some (v, ownBytes) →
      ∀ cls, (i.step a).asked? i registry r = some cls → ownBytes = .ok b → Reading.Spans (.of (own cls)) b)
    (packed : (i.step a).pack registry r fields = .ok b) :
    Reading.Spans (.of fun data offset => (i.step a).unpack i registry own r data offset) b := by
  have fieldFound {v : Value} {ownBytes : Except Fault Bytes} (found : field r fields a = .ok (v, ownBytes)) :
      Keyed.get? a.fieldName fields = some (v, ownBytes) := by
    unfold field at found
    split at found <;> cases found
    assumption
  unfold Interface.step at packed asked ⊢
  split at packed
  next format number =>
    exact spans_number_step packed
  next number =>
    rw [number] at asked
    cases codec : i.attributeCodec a with
    | used =>
      rw [codec] at packed
      obtain ⟨⟨v, ownBytes⟩, -, packed⟩ := of_bind_ok packed
      exact spans_single (spans_usedEnum packed)
    | named =>
      rw [codec] at packed asked
      obtain ⟨⟨v, ownBytes⟩, found, packed⟩ := of_bind_ok packed
      have there := fieldFound found
      exact spans_single (spans_unpackAs ofUnit (room v ownBytes there) (asked v ownBytes there) packed)
    | own =>
      rw [codec] at packed asked
      obtain ⟨⟨v, ownBytes⟩, found, packed⟩ := of_bind_ok packed
      intro data offset vs n stands done
      by_cases hidden : r.locals.contains (i.hint none a.type).spelling
      · simp only [Reading.of, unpack, hidden, if_true] at done
        cases done
      · simp only [Reading.of, unpack, hidden] at done
        have spans := asked v ownBytes (fieldFound found) _ (by simp only [asked?, hidden]; rfl) packed
        exact spans_single spans stands done

private theorem spans_recordSteps {attributes : List Parameter}
    (each : ∀ a ∈ attributes, ∀ b, (i.step a).pack registry r fields = .ok b →
      Reading.Spans (.of fun data offset => (i.step a).unpack i registry own r data offset) b)
    (packed : packAll registry r fields (i.recordSteps attributes) = .ok b) :
    Reading.Spans (.of fun data offset => unpackAll i registry own r data (i.recordSteps attributes) offset) b := by
  replace packed := packAll_recordSteps.mp packed
  intro data offset vs n stands done
  replace done := (unpackAll_recordSteps stands.short).mp done
  induction attributes generalizing b offset vs n with
  | nil =>
    cases packed
    cases done
    rfl
  | cons a rest ih =>
    obtain ⟨first, later, packedFirst, packedLater, rfl⟩ := packAll_cons_ok.mp packed
    obtain ⟨_, size, _, sizes, doneFirst, doneLater, -, rfl⟩ := unpackAll_cons_ok.mp done
    obtain rfl := each a (by simp) first packedFirst stands.left doneFirst
    rw [← Int.natCast_add] at doneLater
    rw [ih (fun a among => each a (by simp [among])) packedLater stands.right doneLater, List.length_append]

end RecordStep

namespace Module

variable {m : Module} {registry : Registry}

/-- The value is one of the class, and so are the values of its attributes, with lengths that have room. -/
inductive Instance (m : Module) (registry : Registry) : Text → Value → Prop
  | enumerator {cls name : Text} {number : Int} {plan : EnumPlan} (defined : m.definition? cls = some (.enum plan)) :
    Instance m registry cls (.enumerator cls name number)
  | record {cls : Text} {r : RecordDecl} {fields : List (Text × Value)} (defined : m.definition? cls = some (.record r))
    (room : ∀ a ∈ r.attributes, ∀ v, Keyed.get? a.fieldName fields = some v →
      ∀ encoding, Builtin.encoding? a.type = some encoding → encoding.Room v)
    (inner : ∀ a ∈ r.attributes, ∀ v, Keyed.get? a.fieldName fields = some v →
      ∀ part, (m.interface.step a).asked? m.interface registry r = some part → Instance m registry part v) :
    Instance m registry cls (.record cls fields)

/-- The value is one of the type, with lengths that have room: it packs itself only as the class of the type does. -/
structure Sends (m : Module) (registry : Registry) (type : Text) (v : Value) : Prop where
  room : ∀ encoding, Builtin.encoding? type = some encoding → encoding.Room v
  own : ∀ cls, registry.classOf? type = some cls → m.Instance registry cls v

private theorem get?_packedFields {name : Text} {fields : List (Text × Value)}
    (found : Keyed.get? name (m.packedFields registry fields) = some (v, ownBytes)) :
    Keyed.get? name fields = some v ∧ ownBytes = m.packOwn registry v := by
  induction fields with
  | nil => cases found
  | cons entry rest ih =>
    obtain ⟨key, value⟩ := entry
    rw [packedFields, Keyed.get?] at found
    rw [Keyed.get?]
    split at found
    next same =>
      cases found
      simp [same]
    next different => simpa [different] using ih found

private theorem spans_unpackOwn (ofUnit : registry.OfUnit) {cls : Text} (isInstance : m.Instance registry cls v)
    (packed : m.packOwn registry v = .ok b) (depth : Nat) :
    Reading.Spans (.of (m.unpackOwn registry depth cls)) b := by
  induction isInstance generalizing b depth with
  | @enumerator cls name number plan defined =>
    simp only [packOwn, enumClass?, defined] at packed
    intro data offset found n stands done
    rw [Reading.of_apply] at done
    cases depth with
    | zero => cases done
    | succ depth =>
      simp only [unpackOwn, defined, EnumPlan.unpack, Logged.result_bind, Logged.result_of] at done
      obtain ⟨⟨raw, size⟩, read, done⟩ := of_bind_ok done
      obtain ⟨_, -, same⟩ := of_bind_ok done
      cases same
      exact spans_number packed stands read
  | @record cls r fields defined room inner ih =>
    simp only [packOwn, recordClass?, defined] at packed
    intro data offset found n stands done
    rw [Reading.of_apply] at done
    cases depth with
    | zero => cases done
    | succ depth =>
      simp only [unpackOwn, defined, Logged.result_bind, Logged.result_of] at done
      obtain ⟨⟨values, size⟩, read, done⟩ := of_bind_ok done
      obtain ⟨_, -, same⟩ := of_bind_ok done
      cases same
      refine RecordStep.spans_recordSteps (fun a among first packedFirst => ?_) packed stands read
      refine RecordStep.spans_step ofUnit (fun v ownBytes there => ?_) (fun v ownBytes there part isAsked isOwn => ?_)
        packedFirst
      · exact room a among v (get?_packedFields there).1
      · obtain ⟨has, rfl⟩ := get?_packedFields there
        exact ih a among v has part isAsked isOwn depth

/-- What is read for an argument list takes as many bytes as the arguments were packed into. -/
theorem spans_unpackArguments (ofUnit : registry.OfUnit) (sent : List.Forall₂ (m.Sends registry) types values)
    (packed : packEach (m.pack registry) (types.zip values) = .ok b) :
    Reading.Spans (.of (m.unpackArguments registry types)) b := by
  induction sent generalizing b with
  | nil =>
    cases packed
    intro data offset vs n _ done
    cases done
    rfl
  | @cons type v types values sends _ ih =>
    obtain ⟨first, packedFirst, packed⟩ := of_bind_ok packed
    obtain ⟨later, packedLater, packed⟩ := of_bind_ok packed
    cases packed
    intro data offset vs n stands done
    rw [Reading.of_apply] at done
    simp only [unpackEach, Logged.result_bind, Logged.result_mapFault] at done
    obtain ⟨⟨found, size⟩, read, done⟩ := of_bind_ok done
    obtain ⟨⟨others, sizes⟩, readLater, done⟩ := of_bind_ok done
    cases done
    have spansFirst : Reading.Spans (.of (m.unpack registry type)) first := by
      intro data offset found n stands done
      exact spans_unpackAs ofUnit sends.room
        (fun cls isClass packed => spans_unpackOwn ofUnit (sends.own cls isClass) packed _) packedFirst stands done
    obtain rfl := spansFirst stands.left (of_mapError_ok read)
    rw [← Int.natCast_add] at readLater
    rw [ih packedLater stands.right readLater, List.length_append]

/-- Where every class is found, a list of arguments is unpacked or refused. -/
theorem failsWith_unpackArguments (ofUnit : registry.OfUnit) (members : m.HasEnumerators)
    (grounded : ∀ cls, ¬ Relation.TransGen (m.Asks registry) cls cls)
    (finds : ∀ type ∈ types, m.FindsAll registry type) :
    Reading.FailsWith Fault.Refuses (.of (m.unpackArguments registry types)) := by
  induction types with
  | nil =>
    intro data offset e _ failed
    cases failed
  | cons type rest ih =>
    intro data offset e short failed
    rw [Reading.of_apply] at failed
    simp only [unpackEach, Logged.result_bind, Logged.result_mapFault] at failed
    rcases of_bind_error failed with failed | ⟨⟨v, n⟩, found, failed⟩
    · obtain ⟨fault, isFault, rfl⟩ := of_mapError_error failed
      have refused := failsWith_unpack ofUnit members grounded (finds type (by simp)) short isFault
      rcases refused with malformed | ⟨rfl, large⟩
      · cases fault <;> exact .inl malformed
      · exact .inr ⟨rfl, large⟩
    · rcases of_bind_error failed with failed | ⟨_, -, failed⟩
      · rw [← Int.natCast_add] at failed
        have inside := (repeatedBy_unpack type short (of_mapError_ok found)).1
        have later := ih (fun type among => finds type (by simp [among])) short failed
        exact later.before (by omega)
      · cases failed

/-- Arguments that are cut off are not read: all their bytes would have been taken. -/
theorem unpackArguments_take_ne_ok (ofUnit : registry.OfUnit) (sent : List.Forall₂ (m.Sends registry) types values)
    (packed : packEach (m.pack registry) (types.zip values) = .ok b) (short : b.length < 2 ^ 63) {k : Nat}
    (cut : k < b.length) (found : List Value × Nat) : (m.unpackArguments registry types (b.take k) (0 : Nat)).result ≠ .ok found := by
  intro done
  obtain ⟨vs, n⟩ := found
  have shorter : (b.take k).length = k := by simp only [List.length_take]; omega
  obtain ⟨inside, elsewhere⟩ := repeatedBy_unpackArguments types (by omega) done
  have few : n ≤ k := by omega
  have again : (m.unpackArguments registry types b (0 : Nat)).result = .ok (vs, n) :=
    elsewhere short (by simp [List.take_take, few])
  have all : n = b.length :=
    spans_unpackArguments ofUnit sent packed ⟨⟨[], [], by simp, rfl⟩, short⟩ again
  omega

/-- The registry in which the unit has registered its types. -/
def ownRegistry (m : Module) : Registry := (m.register {}).2

theorem ofUnit_ownRegistry (m : Module) : m.ownRegistry.OfUnit :=
  ofUnit_register m fun _ _ found => nomatch found

/-- The types of a unit can be read: no record comes to ask for itself, enumerators become members of their classes, and
no class takes the place of what bytes are read with. -/
structure Readable (m : Module) : Prop where
  grounded : ∀ cls, ¬ Relation.TransGen (m.Asks m.ownRegistry) cls cls
  members : ∀ e ∈ m.interface.emittedEnums, ∀ x ∈ e.2.values, ¬ ("_" : Text) <+: x.name
  unhidden : m.Unhidden

/-- Records that ask for records of lower rank only do not ask for themselves. -/
private theorem not_asks_of_rank (rank : Text → Nat) (lower : ∀ r ∈ m.interface.records, ∀ a ∈ r.attributes,
    ∀ inner ∈ (m.interface.step a).asked? m.interface registry r, rank inner < rank r.name) (cls : Text) :
    ¬ Relation.TransGen (m.Asks registry) cls cls := by
  refine not_transGen_of_rank rank (fun outer inner asks => ?_) cls
  obtain ⟨r, defined, a, among, asked⟩ := asks
  obtain ⟨declared, rfl⟩ := mem_records_of_definition? defined
  exact lower r declared a among inner asked

def box : Value :=
  .record "Box" [("label", .bytes [65]), ("size", .record "Size" [("width", .integer 2), ("height", .integer 3)])]

private theorem shelf_size (fields : List (Text × Value)) :
    shelf.Instance shelf.ownRegistry "Size" (.record "Size" fields) := by
  have defined : shelf.definition? "Size" =
      some (.record { name := "Size", attributes := [⟨"short", "width"⟩, ⟨"short", "height"⟩] }) := by
    decide +kernel
  have numbers : ∀ a ∈ ([⟨"short", "width"⟩, ⟨"short", "height"⟩] : List Parameter),
      Builtin.encoding? a.type = some (.number .int16) ∧ shelf.interface.step a = .numbers [(a, .int16)] := by
    decide +kernel
  refine .record defined (fun a among v _ encoding known => ?_) (fun a among v _ part asked => ?_)
  · cases (numbers a among).1.symm.trans known
    trivial
  · rw [(numbers a among).2] at asked
    cases asked

private theorem shelf_box : shelf.Instance shelf.ownRegistry "Box" box := by
  have defined : shelf.definition? "Box" =
      some (.record { name := "Box", attributes := [⟨"QByteArray", "label"⟩, ⟨"Size", "size"⟩] }) := by
    decide +kernel
  refine .record defined (fun a among v found encoding known => ?_) (fun a among v found part asked => ?_)
  · simp only [List.mem_cons, List.not_mem_nil, or_false] at among
    rcases among with rfl | rfl
    · cases known.symm.trans (by decide +kernel : _ = some Encoding.bytes)
      cases found
      intro b content
      cases content
      decide
    · cases known.symm.trans (by decide +kernel : _ = none)
  · simp only [List.mem_cons, List.not_mem_nil, or_false] at among
    rcases among with rfl | rfl
    · cases asked.symm.trans (by decide +kernel : _ = none)
    · cases asked.symm.trans (by decide +kernel : _ = some ("Size" : Text))
      cases found
      exact shelf_size _

end Module

end Counterpart
