import Counterpart.Session.Objects

/-!
Taking the steps of a session. A step that calls receivers takes the steps of these receivers in turn;
`inner` stands for taking those.
-/
namespace Counterpart.Session

def takeWireStep : Step → Act Answer
  | .types => do
    return .list ((← get).registry.types.map fun (name, known) => .list [.text name, .number known.id])
  | .register => do
    Act.registerTypes
    return .nothing
  | .registerType name type asByte => do
    let w ← get
    let (id, registry) := w.registry.register name (.foreign type) (if asByte then .byte else .own)
    set { w with registry }
    return .number id
  | .lookupType name => do
    match (← get).registry.lookup name with
    | some known => return .list [.text name, .text known.type.name, .number known.id]
    | none => return .nothing
  | .typeId name => do return .number ((← get).registry.typeId name)
  | .typeName id => do return .text ((← get).registry.typeName (← Act.ordinal id))
  | .isBuiltin name => return .truth (Builtin.isBuiltin name)
  | .pack type value => do
    let v ← Act.eval value
    return .bytes (← Act.of ((← Act.module).pack (← get).registry type v))
  | .unpack type data offset => do
    let (v, size) ← Act.ofLogged ((← Act.module).unpack (← get).registry type data (← Act.ordinal offset))
    return .list [.value v, .number size]
  | .packArguments types values => do
    let v ← Act.eval values
    let _ ← Act.of v.length
    let vs ← Act.of v.toItems
    return .bytes (← Act.of ((← Act.module).packArguments (← get).registry types vs))
  | .unpackArguments types data offset => do
    let (vs, size) ← Act.ofLogged ((← Act.module).unpackArguments (← get).registry types data (← Act.ordinal offset))
    return .list [.value (.list vs), .number size]
  | .value value => do return .value (← Act.eval value)
  | .equal a b => do
    let v ← Act.eval a
    let w ← Act.eval b
    return .truth (v.equals w)
  | .baseCodec function => throw (.leftOpen function)
  | _ => return .nothing

def takeReplyStep : Step → Act Answer
  | .deliver number value => do
    let (place, r) ← Act.reply number
    let (done, called, after) := r.deliver (← Act.eval value)
    Act.settle place after called
    return .truth done
  | .cancel number => do
    let (place, r) ← Act.reply number
    let (done, called, after) := r.cancel
    Act.settle place after called
    return .truth done
  | .replyState number => do
    let (_, r) ← Act.reply number
    return .list [.truth r.isDone, .truth r.isCancelled, .text r.returnType]
  | .result number => do
    let (_, r) ← Act.reply number
    return .value (← Act.of r.result)
  | .onDone number tag => do
    let (place, r) ← Act.reply number
    let (called, after) := r.await tag
    Act.settle place after called
    return .nothing
  | .await number value => do
    let (place, r) ← Act.reply number
    let (_, called, after) := r.deliver (← Act.eval value)
    Act.settle place after called
    match after.state with
    | .delivered v => return .value v
    | _ => return .cancelled
  | _ => return .nothing

def expectation : Option Text → Except Fault (Option ValueClass)
  | none => .ok none
  | some word =>
    match ValueClass.ofName? word with
    | some cls => .ok (some cls)
    | none => .error (.unknownKey word)

def nodeOf (o : Instance) : Act Answer :=
  match o.state, o.attached? with
  | .replica r, _ => return (r.node?.map Answer.text).getD .nothing
  | _, some node? => return (node?.map Answer.text).getD .nothing
  | _, none => throw (.noAttribute o.lineage.className "node")

def giveNode (id : Text) (o : Instance) (node? : Option Text) : Act Unit :=
  match o.state with
  | .replica r => Act.keepReplica id o { r with node? }
  | _ => Act.keep id { o with attached? := some node? }

def takeObjectStep (inner : Step → Act Answer) : Step → Act Answer
  | .replica id cls node? name => do
    match ← Act.lineage (cls ++ "Replica") with
    | (.replica c, l) => makeReplica id c l node? name
    | _ => throw (.unknownKey (cls ++ "Replica"))
    return .nothing
  | .bareReplica id remoteType name node? values => do
    let r := Replica.create remoteType name node?
    let l : Lineage := { name := "Raw", remoteType? := some remoteType } :: Lineage.replicaBase
    let o : Instance := { lineage := l, state := .replica r }
    Act.keep id o
    let vs ← Act.of (← Act.eval values).toItems
    Act.keepReplica id o { r with values := vs }
    return .nothing
  | .source id cls slots? => do
    let (d, l) ← implementation cls slots?
    makeObject id l d
    return .nothing
  | .instantiate id cls => do
    let (d, l) ← Act.lineage cls
    makeObject id l d
    return .nothing
  | .setNode id node? => do
    giveNode id (← Act.object id) node?
    return .nothing
  | .getNode id => do nodeOf (← Act.object id)
  | .setProperty id index value => do
    let (o, r) ← Act.replica id "set_property"
    update id o r index (← Act.eval value)
  | .propertyValue id index => do
    let (_, r) ← Act.replica id "_property_value"
    return .value (← Act.of (valueAt r index))
  | .propertyAs id index expected? name => do
    let (_, r) ← Act.replica id "_property_as"
    return .value (← valueAs r index (← Act.of (expectation expected?)) name)
  | .call id name args => callMember (notify inner) id name (Act.evalAll args)
  | .query id function args => callMember (notify inner) id function (pure args)
  | .send id word index args returnType? => do
    let given ← Act.eval args
    let (o, r) ← Act.replica id (if returnType?.isSome then "_send_with_reply" else "_send")
    match RequestKind.ofWord? word with
    | none => throw (.unknownKey word)
    | some kind => request id o r kind (← Act.ordinal index) given returnType?
  | _ => return .nothing

def takeSignalStep (inner : Step → Act Answer) : Step → Act Answer
  | .connect id name tag reaction => do
    connect id name tag reaction
    return .nothing
  | .disconnect id name tag reaction => do
    let (o, _) ← Act.signal id name "disconnect"
    Act.mention tag reaction
    match o.connections.disconnect? name tag with
    | some connections =>
      Act.keep id { o with connections }
      return .nothing
    | none => throw .notConnected
  | .emit id name args => do
    let _ ← Act.signal id name "emit"
    emit (notify inner) id name (← Act.evalAll args)
    return .nothing
  | .receivers id name => do
    let (o, types) ← Act.signal id name "name"
    return .list [.text name, .list (types.map .text), .number (o.connections.receivers name).length]
  | .raise message => throw (.raised message)
  | _ => return .nothing

def take (inner : Step → Act Answer) (step : Step) : Act Answer :=
  step.pick takeWireStep takeClassStep takeReplyStep (takeSignalStep inner) (takeObjectStep inner) step

def takeWithin : Nat → Step → Act Answer
  | 0, _ => throw .tooDeep
  | depth + 1, step => take (takeWithin depth) step

/-! ## Sessions -/

def sentTo (node : Text) (i : Invocation) : Sent :=
  ⟨node, i.kind.word, .integer i.index, i.args, .integer i.sequence⟩

/-- Takes a step and tells what it gives. What was sent, noted and warned of before belongs to it. -/
def advance (w : World) (step : Step) : Outcome × World :=
  let (answer, after) := (takeWithin (w.depth + 2) step).run.run w
  (⟨answer.mapError .fault, after.sent.map fun (node, i) => sentTo node i, after.events, after.log.map (·.message)⟩,
    { after with sent := [], events := [], log := [] })

def advanceAll : World → List Step → List Outcome
  | _, [] => []
  | w, step :: rest =>
    let (outcome, after) := advance w step
    outcome :: advanceAll after rest

def run (m : Module) (warnings : List DefaultWarning) (steps : List Step) : List Outcome :=
  advanceAll { module := m, log := warnings.map .default } steps

end Counterpart.Session
