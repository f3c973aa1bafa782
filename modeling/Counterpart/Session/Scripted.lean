import Counterpart.Script.Foundation
import Counterpart.Session.Step

/-!
Sessions with a unit that is run as it is written: its text is read and executed, and the steps are taken on the
objects that come of it.
-/
namespace Counterpart.Session.Scripted

variable (cls id : Text) (number : Value) (name : Text)

open Counterpart.Script

/-! ## What a session keeps -/

inductive Deed where
  | receive (tag : Text) (reaction : List Step)
  | answer (slot : Text) (result : Obj)
  | finish (tag : Text) (reply : Nat)
  | send (awaited : Bool)
  | packDouble (letter : Text)
  | unpackDouble
  | packByte
  | unpackByte
  | nothing

structure Desk where
  interface? : Option Interface := none
  module? : Option Address := none
  objects : Attrs := []
  receivers : Attrs := []
  replies : List Obj := []
  channels : Attrs := []
  doubles : Attrs := []
  channelClass : Obj := .none
  deeds : Array Deed := #[]
  sent : List Sent := []
  events : List Event := []

abbrev Play := Script.Run Desk

def desk : Play Desk := return (← get).host

def change (f : Desk → Desk) : Play Unit := modify fun w => { w with host := f w.host }

def note (e : Event) : Play Unit := change fun d => { d with events := d.events ++ [e] }

def newDeed (deed : Deed) : Play Obj := do
  let number := (← desk).deeds.size
  change fun d => { d with deeds := d.deeds.push deed }
  newObject "function" (.function { name, qualname := name, slots := [], body := .host number })

def entryOf {α : Type} (key : Text) (table : List (Text × α)) : Play α := do
  (Keyed.get? key table).getDM do throw (← newError "KeyError" [.text key])

def fromModule : Play Obj := do
  let some m := (← desk).module? | entryOf name ([] : Attrs)
  entryOf name (← attrsOf m)

/-! ## Values -/

def objOf : Nat → Value → Play Obj
  | 0, _ => return .none
  | fuel + 1, v => do
    match v with
    | .none => return .none
    | .truth b => return .truth b
    | .integer i => return .int i
    | .real d => return .real d
    | .text t => return .text t
    | .bytes b => return .bytes b
    | .list items => newList (← items.mapM (objOf fuel))
    | .tuple items => .tuple <$> items.mapM (objOf fuel)
    | .foreign cls n => call (← entryOf cls (← desk).doubles) [.int n]
    | .other _ _ => newDict []
    | _ => return .none

def valueDepth : Nat := 10000

def objFor : Nat → Datum → Play Obj
  | 0, _ => return .none
  | fuel + 1, d => do
    match d with
    | .plain v => objOf valueDepth v
    | .list items => newList (← items.mapM (objFor fuel))
    | .enumerator cls name => getItem (← fromModule cls) (.text name)
    | .record cls fields => call (← fromModule cls) (← fields.mapM (objFor fuel))

def read (d : Datum) : Play Obj := objFor valueDepth d

def readPlain (v : Value) : Play Obj := objOf valueDepth v

def fieldNames (o : Obj) : Play (List Text) := do
  let fields ← getAttr (← loadModule ["dataclasses"]) "fields"
  (← itemsOf (← call fields [o])).mapM fun f => do strOf (← getAttr f "name")

def valueOf : Nat → Obj → Play Value
  | 0, _ => return .none
  | fuel + 1, o => do
    match o with
    | .none => return .none
    | .truth b => return .truth b
    | .int i => return .integer i
    | .real d => return .real d
    | .text t => return .text t
    | .bytes b => return .bytes b
    | .tuple items => .tuple <$> items.mapM (valueOf fuel)
    | .ref _ =>
      let cls ← typeOf o
      if ← derives cls (known "RemoteEnum") then
        let name ← strOf (← getAttr o "name")
        let .int i ← plainValue o | return .none
        return .enumerator (← typeName o) name i
      if ← derives cls (known "Record") then
        let fields ← (← fieldNames o).mapM fun name => do return (name, ← valueOf fuel (← getAttr o name))
        return .record (← typeName o) fields
      match (← desk).doubles.find? fun (_, c) => c.same (.ref cls) with
      | some (letter, _) =>
        let some (.int n) ← ownAttr? o "n" | return .foreign letter 0
        return .foreign letter n
      | none =>
        match ← payloadOf o with
        | .list items => .list <$> items.mapM (valueOf fuel)
        | .buffer b => return .bytes b
        | .value v =>
          if (← derives cls (← typeOf v)) && !(v matches .ref _) then valueOf fuel v
          else return .other (← typeName o) (← reprVia o)
        | _ => return .other (← typeName o) (← reprVia o)
    | o => return .other (← typeName o) (← reprVia o)

def tell (o : Obj) : Play Value := valueOf valueDepth o

def told (o : Obj) : Play Answer := do .value <$> tell o

def toldAttr (o : Obj) (name : Text) : Play Answer := do told (← getAttr o name)

def toldBy (o : Obj) (method : Text) (args : List Obj := []) : Play Answer := do told (← callMethod o method args)

def answerOf (o : Obj) : Play Answer := do
  if ← isA o "PendingReply" then
    let number := (← desk).replies.length
    change fun d => { d with replies := d.replies ++ [o] }
    return .reply number (← strOf (← getAttr o "return_type"))
  told o

/-! ## Classes and channels of a session -/

def channel (label : Text) : Play Obj := do
  (Keyed.get? label (← desk).channels).getDM do
    let o ← call (← desk).channelClass []
    setAttr o "label" (.text label)
    change fun d => { d with channels := Keyed.set label o d.channels }
    return o

def channelOf (label? : Option Text) : Play Obj := label?.elim (return .none) channel

def furnish : Play Unit := do
  let send ← newDeed "send" (.send false)
  let sendAwaited ← newDeed "send_with_reply" (.send true)
  let channelClass ← makeClass (known "type") "Channel" [] [("send", send), ("send_with_reply", sendAwaited)] []
  let doubles ← outsideClasses.mapM fun letter => do
    let pack ← newDeed "pack" (.packDouble letter)
    let unpack ← newObject "classmethod" (.wrapper (← newDeed "unpack" .unpackDouble))
    let init ← newObject "function" (.function
      { name := "__init__", qualname := letter ++ ".__init__", slots := [selfSlot "self", selfSlot "n"]
        body := .block [.assign [.dotted (.name "self") "n"] (.name "n")] {} false false })
    let cls ← makeClass (known "type") letter [] [("__init__", init), ("pack", pack), ("unpack", unpack)] []
    return (letter, cls)
  change fun d => { d with channelClass, doubles }

def ownSlots : Play (List (Text × Datum)) := do
  let some i := (← desk).interface? | fail "AttributeError" "'NoneType' object has no attribute 'classes'"
  let some c := i.class? cls | throw (← newError "StopIteration" [])
  return c.slots.map fun s => (s.name, .plain .none)

def implementation (slots? : Option (List (Text × Datum))) : Play Obj := do
  let methods ← (slots?.getD (← ownSlots cls)).mapM fun (name, d) => do
    return (name.unreserved, ← newDeed name.unreserved (.answer name (← read d)))
  let base ← fromModule (cls ++ "SimpleSource")
  call (.ref (known "type")) [.text "Impl", .tuple [base], ← newDict (attrEntries (Keyed.ofList methods))]

def memberOf : Member → Play Obj
  | .signal _ => call (.ref (known "Signal")) []
  | .method _ => newDeed "method" .nothing
  | .shared => do newObject "staticmethod" (.wrapper (← newDeed "method" .nothing))
  | .builtin => return builtin "len"
  | .value v => readPlain v
  | _ => return .none

def sketchClasses : Attrs → List Sketch → Play Attrs
  | made, [] => return made
  | made, s :: rest => do
    let bases ← s.bases.mapM fun (base : Text) => do
      if base = "SourceBase" then return .ref (known "SourceBase")
      (Keyed.get? base made).getDM do fromModule base
    let members ← s.members.mapM fun (name, m) => do return (name, ← memberOf m)
    let remote := s.remoteType?.toList.map fun t => (("_remote_type_" : Text), Obj.text t)
    let properties := s.properties?.toList.map fun names =>
      (("_remote_properties_" : Text), Obj.tuple (names.map .text))
    let space := Keyed.ofList (remote ++ properties ++ members)
    let cls ← call (.ref (known "ABCMeta")) [.text s.name, .tuple bases, ← newDict (attrEntries space)]
    sketchClasses (made.filter (·.1 ≠ s.name) ++ [(s.name, cls)]) rest

def sketchClass (sketches : List Sketch) : Play Obj := do
  let some (_, cls) := (← sketchClasses [] sketches).getLast? | fail "IndexError" "list index out of range"
  return cls

/-! ## Steps -/

def object : Play Obj := do entryOf id (← desk).objects

def keep (o : Obj) : Play Answer := do
  change fun d => { d with objects := Keyed.set id o d.objects }
  return .nothing

def support (module name : Text) : Play Obj := do return (← moduleObj? ("repgen.proto." ++ module) name).getD .none

def toldRow (items : List Obj) : Play Answer := do .list <$> items.mapM told

def row (o : Obj) : Play Answer := do toldRow (← itemsOf o)

def bytesAnswer (o : Obj) : Play Answer := do
  match o with
  | .bytes b => return .bytes b
  | o => answerOf (← callMethod o "hex" [])

def pairAnswer (o : Obj) : Play Answer := do toldRow (← splitItems o 2 none)

def takeWireStep (step : Step) : Play Answer := do
  match step with
  | .types =>
    let names ← itemsOf (← call (← support "registry" "registered_types") [])
    return .list (← names.mapM fun name => do return .list [← told name, ← told (← typeId name)])
  | .register => do
    let _ ← call (← fromModule "_register_types") []
    return .nothing
  | .registerType name type asByte =>
    let cls ← entryOf type (← desk).doubles
    let codec ← if asByte then do pure [← newDeed "pack" .packByte, ← newDeed "unpack" .unpackByte] else pure []
    answerOf (← call (← support "registry" "register_type") ([.text name, cls] ++ codec))
  | .lookupType name =>
    match ← call (← support "registry" "lookup") [.text name] with
    | .none => return .nothing
    | codec =>
      let label ← toldAttr codec "name"
      let type ← toldAttr (← getAttr codec "type") "__name__"
      return .list [label, type, ← toldAttr codec "type_id"]
  | .typeId name => do answerOf (← typeId (.text name))
  | .typeName id => do answerOf (← typeNameOf (← readPlain id))
  | .isBuiltin name => do answerOf (← call (← support "registry" "is_builtin") [.text name])
  | .pack type value => do bytesAnswer (← call (← support "serialization" "pack_value") [.text type, ← read value])
  | .unpack type data offset => do
    pairAnswer (← call (← support "serialization" "unpack_value") [.text type, .bytes data, ← readPlain offset])
  | .packArguments types values => do
    let names ← newList (types.map .text)
    bytesAnswer (← call (← support "serialization" "pack_arguments") [names, ← read values])
  | .unpackArguments types data offset => do
    let names ← newList (types.map .text)
    pairAnswer (← call (← support "serialization" "unpack_arguments") [names, ← newView (.bytes data), ← readPlain offset])
  | .value value => do answerOf (← read value)
  | .equal a b =>
    let x ← read a
    answerOf (← compareObjs .eq x (← read b))
  | .baseCodec function => do answerOf (← Script.leftOpen function [])
  | _ => return .nothing

def reply : Play Obj := do getItem (← newList (← desk).replies) (← readPlain number)

def replyPlace : Play Nat := do
  let count := (← desk).replies.length
  let place := (number.integer?).getD 0
  return (if place < 0 then place + count else place).toNat

def takeReplyStep (step : Step) : Play Answer := do
  match step with
  | .deliver number value =>
    let future ← getAttr (← reply number) "future"
    answerOf (← deliver future (← read value))
  | .cancel number => do answerOf (← callMethod (← reply number) "cancel" [])
  | .replyState number =>
    let r ← reply number
    let done ← toldBy r "done"
    return .list [done, ← toldBy r "cancelled", ← toldAttr r "return_type"]
  | .result number => do answerOf (← callMethod (← reply number) "result" [] [("timeout", .int 0)])
  | .onDone number tag =>
    let r ← reply number
    let _ ← callMethod r "add_done_callback" [(← newDeed "done" (.finish tag (← replyPlace number)))]
    return .nothing
  | .await number value =>
    let r ← reply number
    let v ← read value
    let _ ← deliver (← getAttr r "future") v
    if ← truthOf (← callMethod r "cancelled" []) then return .cancelled
    answerOf (← callMethod r "result" [])
  | _ => return .nothing

def expectable : List Text := ["int", "float", "bool", "str", "bytes", "list"]

def expectation (word? : Option Text) : Play Obj :=
  word?.elim (return .none) (entryOf · (expectable.map fun name => (name, .ref (known name.toString))))

def takeObjectStep (step : Step) : Play Answer := do
  let ask (id name : Text) (given : Play (List Obj)) : Play Answer := do
    let f ← getAttr (← object id) name
    answerOf (← call f (← given))
  match step with
  | .replica id cls node? name =>
    let c ← fromModule (cls ++ "Replica")
    keep id (← call c [← channelOf node?, .text name])
  | .bareReplica id remoteType name node? values =>
    let cls ← makeClass (known "type") "Raw" [.ref (known "ReplicaBase")] [("_remote_type_", .text remoteType)] []
    let o ← call cls [← channelOf node?, .text name]
    let _ ← keep id o
    let _ ← callMethod o "_set_properties" [← read values]
    return .nothing
  | .source id cls slots? => keep id (← call (← implementation cls slots?) [])
  | .instantiate id cls => keep id (← call (← fromModule cls) [])
  | .setNode id node? =>
    let o ← object id
    setAttr o "node" (← channelOf node?)
    return .nothing
  | .getNode id =>
    match ← getAttr (← object id) "node" with
    | .none => return .nothing
    | node => answerOf (← getAttr node "label")
  | .setProperty id index value => ask id "set_property" do return [← readPlain index, ← read value]
  | .propertyValue id index => ask id "_property_value" do return [← readPlain index]
  | .propertyAs id index expected? name =>
    ask id "_property_as" do return [← readPlain index, ← expectation expected?, .text name]
  | .call id name args => ask id name (args.mapM read)
  | .query id function args => ask id function (args.mapM readPlain)
  | .send id word index args returnType? =>
    let given ← read args
    let f ← getAttr (← object id) (if returnType?.isSome then "_send_with_reply" else "_send")
    let kind ← getItem (← support "types" "InvocationKind") (.text word)
    answerOf (← call f ([kind, ← readPlain index, given] ++ returnType?.toList.map .text))
  | _ => return .nothing

def receiver (tag : Text) (reaction : List Step) : Play Obj := do
  (Keyed.get? tag (← desk).receivers).getDM do
    let f ← newDeed "receiver" (.receive tag reaction)
    change fun d => { d with receivers := Keyed.set tag f d.receivers }
    return f

def takeSignalStep (step : Step) : Play Answer := do
  let ask (id name method : Text) (given : Play (List Obj)) : Play Answer := do
    let _ ← call (← getAttr (← getAttr (← object id) name) method) (← given)
    return .nothing
  match step with
  | .connect id name tag reaction => ask id name "connect" do return [← receiver tag reaction]
  | .disconnect id name tag reaction => ask id name "disconnect" do return [← receiver tag reaction]
  | .emit id name args => ask id name "emit" (args.mapM read)
  | .receivers id name =>
    let signal ← getAttr (← object id) name
    return .list [← toldAttr signal "name", ← row (← getAttr signal "types"), ← toldAttr signal "receivers"]
  | .raise message => fail "RuntimeError" message
  | _ => return .nothing

def metaAnswer (cls : Obj) (find : List Text) : Play Answer := do
  let m ← call (← support "meta" "meta_object") [cls]
  let typeName ← toldAttr m "type_name"
  let rows ← (["properties", "signals", "methods"] : List Text).mapM fun name => do
    return (name, ← row (← getAttr m name))
  let places ← find.mapM fun name => do
    return Answer.list (← (["index_of_property", "index_of_signal", "index_of_method"] : List Text).mapM fun f =>
      toldBy m f [.text name])
  return .entries (("type_name", typeName) :: rows.concat ("find", .list places))

def placeFunctions : List Text :=
  ["source_property_index", "source_signal_index", "source_method_index", "signal_parameter_count",
   "method_parameter_count", "property_index_from_signal", "property_raw_index_from_signal", "signal_signature",
   "method_signature", "method_type", "method_return_type"]

def describe (o : Obj) : Play Answer := do
  let type ← toldAttr (← getAttr o "object_type") "__name__"
  let names ← (["name", "type_name"] : List Text).mapM fun f => do return (f, ← toldBy o f)
  let counted ← (["property_count", "signal_count", "method_count"] : List Text).mapM fun f => do
    return (f, ← callMethod o f [])
  let counts ← counted.mapM fun (f, n) => do return (f, ← told n)
  let largest ← match counted.map (·.2) with
    | first :: rest => rest.foldlM (fun best n => do
        if ← truthOf (← compareObjs .gt n best) then return n else return best) first
    | [] => pure (.int 0)
  let upper ← match ← plainValue largest with
    | .int n => pure n
    | _ => indexOf largest
  let places : List Int := (List.range (upper + 2).toNat).map fun (n : Nat) => (n : Int) - 1
  let single ← placeFunctions.mapM fun f => do return (f, Answer.list (← places.mapM fun i => toldBy o f [.int i]))
  let double ← (["signal_parameter_type", "method_parameter_type"] : List Text).mapM fun f => do
    return (f, Answer.list (← places.mapM fun i => do
      return .list (← ([-1, 0, 1, 2, 3] : List Int).mapM fun j => toldBy o f [.int i, .int j])))
  return .entries (("object_type", type) :: (names ++ counts ++ single ++ double))

def takeClassStep (step : Step) : Play Answer := do
  let ofRaw (cls method : Text) (raw : Value) : Play Obj := do
    call (← getAttr (← fromModule cls) method) [← readPlain raw]
  match step with
  | .undefined cls => row (← call (builtin "sorted") [← getAttr (← fromModule cls) "__abstractmethods__"])
  | .tables cls =>
    let c ← fromModule (cls ++ "Replica")
    let type ← toldAttr c "_remote_type_"
    let tables ← (["_property_table_", "_signal_table_", "_method_table_"] : List Text).mapM fun name => do
      row (← getAttr c name)
    return .list (type :: tables)
  | .signalOf cls name =>
    let signal ← getAttr (← fromModule cls) name
    return .list [← toldAttr signal "name", ← row (← getAttr signal "types")]
  | .has cls name => do answerOf (← call (builtin "hasattr") [← fromModule cls, .text name])
  | .metaObject (.sketched sketches) find => do metaAnswer (← sketchClass sketches) find
  | .metaObject (.compiled cls) find => do metaAnswer (← fromModule cls) find
  | .bind id cls type =>
    let bound ← match type with
      | .sketched sketches => sketchClass sketches
      | .implemented slots? => implementation cls slots?
    keep id (← call (← fromModule (cls ++ "SourceAPI")) [bound])
  | .bindBare id sketches name typeName? =>
    let cls ← sketchClass sketches
    keep id (← call (.ref (known "SourceApiMap")) ([cls, .text name] ++ typeName?.toList.map .text))
  | .descriptor id => do describe (← object id)
  | .members cls =>
    let members ← callMethod (← getAttr (← fromModule cls) "__members__") "items" []
    return .list (← (← itemsOf members).mapM fun pair => do
      let [name, member] ← itemsOf pair | return .nothing
      return .list [← told name, ← toldAttr member "value"])
  | .convert cls raw => do pairAnswer (← ofRaw cls "convert" raw)
  | .fromWire cls raw => do answerOf (← ofRaw cls "from_wire" raw)
  | _ => return .nothing

def take (step : Step) : Play Answer :=
  step.pick takeWireStep takeClassStep takeReplyStep takeSignalStep takeObjectStep step

/-! ## Functions of a session -/

def takeRequest (awaited : Bool) (args : List Obj) : Play Obj := do
  let node ← strOf (← getAttr (nth args 0) "label")
  let invocation := nth args 1
  let kind ← call (← support "types" "InvocationKind") [← getAttr invocation "kind"]
  let word ← strOf (← getAttr kind "name")
  let index ← tell (← getAttr invocation "index")
  let given ← (← itemsOf (← getAttr invocation "args")).mapM tell
  let sequence ← tell (← getAttr invocation "sequence")
  change fun d => { d with sent := d.sent ++ [⟨node, word, index, given, sequence⟩] }
  if awaited then call (.ref (known "Future")) [] else return .none

def perform (deed : Deed) (args : List Obj) : Play Obj := do
  match deed with
  | .receive tag reaction =>
    let own := ((← desk).module?).getD 0
    deeper own do
      note (.received tag (← args.mapM tell))
      for step in reaction do
        let _ ← deeper own (take step)
      return .none
  | .answer slot result =>
    note (.ran slot (← (args.drop 1).mapM tell))
    return result
  | .finish tag number =>
    note (.done tag number (← truthOf (← callMethod (nth args 0) "cancelled" [])))
    return .none
  | .send awaited => takeRequest awaited args
  | .packDouble letter =>
    let first := ((letter.head?).map fun c => (c.val : Int)).getD 0
    call (.native .function "_struct" "pack") [.text ">BB", .int first, ← getAttr (nth args 0) "n"]
  | .unpackDouble =>
    let offset := args.getD 2 (.int 0)
    let parts ← itemsOf (← call (.native .function "_struct" "unpack_from") [.text ">BB", nth args 1, offset])
    return .tuple [← call (nth args 0) [nth parts 1], .int 2]
  | .packByte => do call (.ref (known "bytes")) [← newList [nth args 0]]
  | .unpackByte => do return .tuple [← getItem (nth args 0) (nth args 1), .int 1]
  | .nothing => return .none

def host (number : Nat) : Native Desk := fun args _ => do
  let some deed := (← desk).deeds[number]? | return .none
  perform deed args

/-! ## Sessions -/

def play {α : Type} (action : Play α) (w : Script.World Desk) : Except Obj α × Script.World Desk :=
  match action (opsAt host nesting) w with
  | .ok a w => (.ok a, w)
  | .error e w => (.error e, w)

def start : Script.World Desk := (play furnish (World.start {})).2

def bare : Script.World Desk :=
  match play (newModule ownModuleName) start with
  | (.ok m, w) => { w with host := { w.host with module? := some m } }
  | (_, w) => w

def errorName (e : Obj) : Play Text := do
  if (← typeOf e) = known "struct.error" then return "struct.error" else typeName e

def troubleOf (e : Obj) : Play Trouble := do
  let name ← errorName e
  match ← outcome (strOf e) with
  | .ok message => return .error name message
  | .error other => return .error (← errorName other) []

def explain (e : Obj) (w : Script.World Desk) : Trouble :=
  match (play (troubleOf e) { w with depth := 0 }).1 with
  | .ok trouble => trouble
  | .error _ => .error "Exception" []

def advance (w : Script.World Desk) (step : Step) : Outcome × Script.World Desk :=
  let (result, after) := play (take step) w
  let answer := result.mapError fun e => explain e after
  (⟨answer, after.host.sent, after.host.events, after.warnings.reverse⟩,
    { after with depth := 0, callers := [], handled := [], warnings := [], host := { after.host with sent := [], events := [] } })

def advanceAll : Script.World Desk → List Step → List Outcome
  | _, [] => []
  | w, step :: rest =>
    let (told, after) := advance w step
    told :: advanceAll after rest

def load (i : Interface) (source : Text) : Except Trouble (Script.World Desk) :=
  match SurrogateRun.of? source, compileModule source with
  | some run, _ => .error (.error "UnicodeEncodeError" run.message)
  | none, .error e => .error (.error e.kind e.message)
  | none, .ok body =>
    match play (runModule body) start with
    | (.error e, w) => .error (explain e w)
    | (.ok m, w) => .ok { w with host := { w.host with interface? := some i, module? := some m } }

def run (w : Script.World Desk) (warnings : List Text) (steps : List Step) : List Outcome :=
  advanceAll { w with warnings := warnings.reverse } steps

end Counterpart.Session.Scripted
