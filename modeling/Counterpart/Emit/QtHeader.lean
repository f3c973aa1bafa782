import Counterpart.Emit.Mode
import Counterpart.Interface.Resolution

/-!
Qt headers. A header declares the enums and records of a unit, then the replica and the source side of
each class. The two sides do not depend on each other; only the included files depend on the mode.
-/
namespace Counterpart.QtHeader

/-! ## Enums -/

def enumLine (p : EnumPlan) : Text :=
  Text.concat ["enum ", p.name, "\x7b",
    Text.concat (p.values.map fun e => Text.concat [e.name, " = ", e.value.text, ","]), "\x7d;"]

def oldVersions : Text := "#if (QT_VERSION < QT_VERSION_CHECK(5, 5, 0))"

def enumDeclarations (plans : List EnumPlan) : List Text :=
  plans.flatMap fun p =>
    ["    " ++ enumLine p, "#if (QT_VERSION >= QT_VERSION_CHECK(5, 5, 0))",
     Text.concat ["    Q_ENUM(", p.name, ")"], "#else", Text.concat ["    Q_ENUMS(", p.name, ")"], "#endif"]

def plainDeclarations (plans : List EnumPlan) : List Text :=
  Text.blocks [
    ["    // You need to add this enum as well as Q_ENUM to your",
     "    // QObject class in order to use .rep enums over QtRO for",
     "    // non-repgen generated QObjects."],
    plans.map fun p => "    " ++ enumLine p]

def enumConversions (plans : List EnumPlan) : List Text :=
  plans.flatMap fun p =>
    Text.blocks [
      [Text.concat ["    static inline ", p.name, " to", p.name, "(", p.wire.name, " i, bool *ok = 0)"],
       "    \x7b", "        if (ok)", "            *ok = true;", "        switch (i) \x7b"],
      p.values.map fun e => Text.concat ["        case ", e.value.text, ": return ", e.name, ";"],
      ["        default:", "            if (ok)", "                *ok = false;",
       Text.concat ["            return ", p.fallback, ";"], "        \x7d", "    \x7d"]]

def metatypeLines (plans : List EnumPlan) (scope : Text) : List Text :=
  plans.map fun p => Text.concat ["    Q_DECLARE_METATYPE(", scope, "::", p.name, ")"]

def enumStreamOperators (plans : List EnumPlan) (scope : Text) : List Text :=
  plans.flatMap fun p =>
    let full := Text.concat [scope, "::", p.name]
    [Text.concat ["inline QDataStream &operator<<(QDataStream &ds, const ", full, " &obj) \x7b"],
     Text.concat ["    ", p.wire.name, " val = obj;"], "    ds << val;", "    return ds;", "\x7d", "",
     Text.concat ["inline QDataStream &operator>>(QDataStream &ds, ", full, " &obj) \x7b"],
     "    bool ok;", Text.concat ["    ", p.wire.name, " val;"], "    ds >> val;",
     Text.concat ["    obj = ", scope, "::to", p.name, "(val, &ok);"], "    if (!ok)",
     Text.concat ["        qWarning() << \"QtRO received an invalid enum value for type ", p.name,
       ", value =\" << val;"],
     "    return ds;", "\x7d", ""]

def globalEnum (p : EnumPlan) : List Text :=
  let scope := p.name ++ "Enum"
  Text.blocks [
    ["class " ++ scope, "\x7b", "    Q_GADGET", Text.concat ["    ", scope, "();"], "public:"],
    enumDeclarations [p], enumConversions [p], ["", "\x7d;", ""],
    [oldVersions], metatypeLines [p] scope, ["#endif", ""],
    enumStreamOperators [p] scope, [""]]

/-! ## Records -/

def eachAttribute (r : RecordDecl) (item : Parameter → Text) : Text :=
  Text.join ", " (r.attributes.map item)

def equality (r : RecordDecl) : Text :=
  if r.attributes.isEmpty then "true"
  else
    Text.join " && " (r.attributes.map fun a =>
      Text.concat ["left.", a.name, "() == right.", a.name, "()"])

def record (r : RecordDecl) : List Text :=
  Text.blocks [
    ["class " ++ r.name, "\x7b", "    Q_GADGET"],
    r.attributes.map fun a => Text.concat ["    Q_PROPERTY(", a.type, " ", a.name, " READ ", a.name,
      " WRITE set", a.name.capitalized, ")"],
    ["public:"],
    if r.attributes.isEmpty then [Text.concat ["    ", r.name, "() \x7b\x7d"]]
    else
      [Text.concat ["    ", r.name, "() : ", eachAttribute r fun a => Text.concat ["_", a.name, "()"], " \x7b\x7d"],
       Text.concat ["    explicit ", r.name, "(",
         eachAttribute r fun a => Text.concat [a.type, " ", a.name], ") : ",
         eachAttribute r fun a => Text.concat ["_", a.name, "(", a.name, ")"], " \x7b\x7d"]],
    r.attributes.flatMap fun a =>
      [Text.concat ["    ", a.type, " ", a.name, "() const \x7b return _", a.name, "; \x7d"],
       Text.concat ["    void set", a.name.capitalized, "(", a.type, " ", a.name, ") \x7b if (", a.name,
         " != _", a.name, ") \x7b _", a.name, " = ", a.name, "; \x7d \x7d"]],
    ["private:"],
    r.attributes.map fun a => Text.concat ["    ", a.type, " _", a.name, ";"],
    ["\x7d;", "",
     Text.concat ["inline bool operator==(const ", r.name, " &left, const ", r.name,
       " &right) Q_DECL_NOTHROW \x7b"],
     Text.concat ["    return ", equality r, ";"], "\x7d",
     Text.concat ["inline bool operator!=(const ", r.name, " &left, const ", r.name,
       " &right) Q_DECL_NOTHROW \x7b"],
     "    return !(left == right);", "\x7d", "",
     Text.concat ["inline QDataStream &operator<<(QDataStream &ds, const ", r.name, " &obj) \x7b"],
     "    QtRemoteObjects::copyStoredProperties(&obj, ds);", "    return ds;", "\x7d", "",
     Text.concat ["inline QDataStream &operator>>(QDataStream &ds, ", r.name, " &obj) \x7b"],
     "    QtRemoteObjects::copyStoredProperties(ds, &obj);", "    return ds;", "\x7d", "", ""]]

/-! ## The classes that play the roles -/

/-- The classes that are emitted for a declared class and hold its members. -/
inductive Role where
  | replica
  | source
  | simpleSource
  deriving DecidableEq, Repr

def Role.ending : Role → Text
  | .replica => "Replica"
  | .source => "Source"
  | .simpleSource => "SimpleSource"

def roleName (c : ClassDecl) (role : Role) : Text := c.name ++ role.ending

def fullName (c : ClassDecl) (e : EnumDecl) : Text := Text.concat [c.name.shown, "::", e.name.shown]

/-- The plans of all enums by their full names; of two enums with one full name the later counts. -/
def plans (i : Interface) : List (Text × EnumPlan) :=
  Keyed.ofList (i.enums.map (fun e => (e.name, e.plan)) ++
    i.classes.flatMap fun c => c.enums.map fun e => (fullName c e, e.plan))

def planOf (i : Interface) (name : Text) (e : EnumDecl) : EnumPlan := (Keyed.get? name (plans i)).getD e.plan

def classPlans (i : Interface) (c : ClassDecl) : List EnumPlan := c.enums.map fun e => planOf i (fullName c e) e

def withScope (c : ClassDecl) (scope type : Text) : Text :=
  if c.hasEnum type then Text.concat [scope, "::", type] else type

def registrationLines (i : Interface) : List Text :=
  ((i.metatypes fun _ t => t).flatMap fun name =>
    [Text.concat ["qRegisterMetaType<", name, ">();"],
     Text.concat ["qRegisterMetaTypeStreamOperators<", name, ">();"]]) ++
  i.usedEnums.map fun name =>
    Text.concat ["qRegisterMetaTypeStreamOperators<", name, ">(\"", name, "\");"]

def roleOpening (c : ClassDecl) (role : Role) : List Text :=
  let name := roleName c role
  let shared : List Text :=
    ["\x7b", "    Q_OBJECT", Text.concat ["    Q_CLASSINFO(QCLASSINFO_REMOTEOBJECT_TYPE, \"", c.name, "\")"],
     "    friend class QRemoteObjectNode;", "public:"]
  let explicitLine := Text.concat ["    explicit ", name, "(QObject *parent = Q_NULLPTR) : QObject(parent)"]
  match role with
  | .replica =>
    Text.blocks [
      [Text.concat ["class ", name, " : public QRemoteObjectReplica"], ""], shared,
      [Text.concat ["    ", name, "() : QRemoteObjectReplica() \x7b initialize(); \x7d"],
       Text.concat ["    ", name, "(QRemoteObjectNode *node, const QString &name = QString())"],
       "        : QRemoteObjectReplica(ConstructWithNode)", "        \x7b initializeNode(node, name); \x7d",
       "    void initialize()"]]
  | .source => Text.blocks [[Text.concat ["class ", name, " : public QObject"]], shared, [explicitLine]]
  | .simpleSource =>
    Text.blocks [[Text.concat ["class ", name, " : public QObject"]], shared, [explicitLine],
      c.properties.map fun p => Text.concat ["        , _", p.name, "(", p.default, ")"]]

def replicaDefaults (c : ClassDecl) : List Text :=
  Text.blocks [
    ["        QVariantList properties;",
     Text.concat ["        properties.reserve(", Text.ofNat c.properties.length, ");"]],
    c.properties.map fun p =>
      Text.concat ["        properties << QVariant::fromValue(", p.type, "(", p.default, "));"],
    ["        setProperties(properties);"]]

def propertyLine (p : Property) : Text :=
  Text.concat ["    Q_PROPERTY(", p.type, " ", p.name, " READ ", p.name,
    if !p.notifies then " CONSTANT"
    else
      Text.concat [if p.writable then " WRITE " ++ p.setterName else [], " NOTIFY ", p.changeName],
    ")"]

def replicaAccessors (c : ClassDecl) (n : NumberedProperty) : List Text :=
  let p := n.property
  Text.blocks [
    [Text.concat ["    ", p.type, " ", p.name, "() const"], "    \x7b",
     Text.concat ["        const QVariant variant = propAsVariant(", Text.ofNat n.ordinal, ");"],
     Text.concat ["        if (!variant.canConvert<", p.type, ">()) \x7b"],
     Text.concat ["            qWarning() << \"QtRO cannot convert the property ", p.name, " to type ",
       p.type, "\";"],
     "        \x7d", Text.concat ["        return variant.value<", p.type, " >();"], "    \x7d"],
    if p.writable then
      [Text.concat ["    void ", p.setterName, "(", p.type, " ", p.name, ")"], "    \x7b",
       Text.concat ["        static int __repc_index = ", roleName c .replica,
         "::staticMetaObject.indexOfProperty(\"", p.name, "\");"],
       "        QVariantList __repc_args;",
       Text.concat ["        __repc_args << QVariant::fromValue(", p.name, ");"],
       "        send(QMetaObject::WriteProperty, __repc_index, __repc_args);", "    \x7d"]
    else []]

def accessors (c : ClassDecl) : Role → List Text
  | .replica => c.ordinals.properties.flatMap (replicaAccessors c)
  | .source =>
    Text.blocks [
      c.properties.map fun p => Text.concat ["    virtual ", p.type, " ", p.name, "() const = 0;"],
      (c.properties.filter (·.writable)).map fun p =>
        Text.concat ["    virtual void ", p.setterName, "(", p.type, " ", p.name, ") = 0;"]]
  | .simpleSource =>
    Text.blocks [
      c.properties.map fun p =>
        Text.concat ["    virtual ", p.type, " ", p.name, "() const \x7b return _", p.name, "; \x7d"],
      (c.properties.filter (·.writable)).flatMap fun p =>
        [Text.concat ["    virtual void ", p.setterName, "(", p.type, " ", p.name, ")"], "    \x7b",
         Text.concat ["        if (", p.name, " != _", p.name, ") \x7b"],
         Text.concat ["            _", p.name, " = ", p.name, ";"],
         Text.concat ["            Q_EMIT ", p.changeName, "(_", p.name, ");"], "        \x7d", "    \x7d"]]

def signalSection (c : ClassDecl) (role : Role) : List Text :=
  if c.properties.isEmpty && c.signals.isEmpty then []
  else
    Text.blocks [
      ["Q_SIGNALS:"],
      (c.properties.filter (·.notifies)).map fun p =>
        Text.concat ["    void ", p.changeName, "(", withScope c (roleName c role) p.type, ");"],
      c.signals.map fun s => Text.concat ["    void ", s.name, "(", s.declaration, ");"]]

def replicaSlot (c : ClassDecl) (op : Operation) : List Text :=
  let result : Text := if op.isVoid then "void"
    else Text.concat ["QRemoteObjectPendingReply<", op.returnType, ">"]
  Text.blocks [
    [Text.concat ["    ", result, " ", op.name, "(", op.declaration, ")"], "    \x7b",
     Text.concat ["        static int __repc_index = ", roleName c .replica,
       "::staticMetaObject.indexOfSlot(\"", op.signature, "\");"],
     "        QVariantList __repc_args;"],
    if op.params.isEmpty then []
    else
      Text.blocks [["        __repc_args"],
        op.paramNames.map fun name => Text.concat ["            << QVariant::fromValue(", name, ")"],
        ["        ;"]],
    if op.isVoid then ["        send(QMetaObject::InvokeMetaMethod, __repc_index, __repc_args);"]
    else
      [Text.concat ["        return ", result,
        "(sendWithReply(QMetaObject::InvokeMetaMethod, __repc_index, __repc_args));"]],
    ["    \x7d"]]

def slotSection (c : ClassDecl) (role : Role) : List Text :=
  if c.slots.isEmpty then []
  else
    "public Q_SLOTS:" ::
      match role with
      | .replica => c.slots.flatMap (replicaSlot c)
      | _ => c.slots.map fun s =>
        Text.concat ["    virtual ", s.returnType, " ", s.name, "(", s.declaration, ") = 0;"]

def memberSection (c : ClassDecl) : Role → List Text
  | .simpleSource =>
    if c.properties.isEmpty then []
    else "private:" :: c.properties.map fun p => Text.concat ["    ", p.type, " _", p.name, ";"]
  | _ => []

def roleBody (i : Interface) (c : ClassDecl) (role : Role) : List Text :=
  Text.blocks [(registrationLines i).map fun line => "        " ++ line, if role = .replica then replicaDefaults c else []]

def roleClass (i : Interface) (c : ClassDecl) (role : Role) : List Text :=
  let plans := classPlans i c
  let name := roleName c role
  Text.blocks [
    roleOpening c role, ["    \x7b"], roleBody i c role, ["    \x7d", "public:"],
    [Text.concat ["    virtual ~", name, "() \x7b\x7d"]], c.properties.map propertyLine,
    enumDeclarations plans, enumConversions plans, [""],
    accessors c role, signalSection c role, slotSection c role, memberSection c role,
    ["\x7d;", oldVersions], metatypeLines plans name, ["#endif", ""],
    enumStreamOperators plans name, ["", ""]]

/-! ## Descriptors -/

def tableLookup (kind table : Text) : List Text :=
  [Text.concat ["    int source", kind, "Index(int index) const Q_DECL_OVERRIDE"], "    \x7b",
   Text.concat ["        if (index < 0 || index >= ", table, "[0])"], "            return -1;",
   Text.concat ["        return ", table, "[index+1];"], "    \x7d"]

def parameterFunctions (kind short table : Text) (isEmpty : Bool) : List Text :=
  let index := short ++ "Index"
  if isEmpty then
    [Text.concat ["    int ", kind,
       "ParameterCount(int index) const Q_DECL_OVERRIDE \x7b Q_UNUSED(index); return -1; \x7d"],
     Text.concat ["    int ", kind, "ParameterType(int ", index,
       ", int paramIndex) const Q_DECL_OVERRIDE"],
     Text.concat ["    \x7b Q_UNUSED(", index, "); Q_UNUSED(paramIndex); return -1; \x7d"]]
  else
    [Text.concat ["    int ", kind, "ParameterCount(int index) const Q_DECL_OVERRIDE"], "    \x7b",
     Text.concat ["        if (index < 0 || index >= ", table, "[0])"], "            return -1;",
     Text.concat ["        return ", kind, "ArgCount[index];"], "    \x7d",
     Text.concat ["    int ", kind, "ParameterType(int ", index,
       ", int paramIndex) const Q_DECL_OVERRIDE"],
     "    \x7b",
     Text.concat ["        if (", index, " < 0 || ", index, " >= ", table,
       "[0] || paramIndex < 0 || paramIndex >= ", kind, "ArgCount[", index, "])"],
     "            return -1;", Text.concat ["        return ", kind, "ArgTypes[", index, "][paramIndex];"],
     "    \x7d"]

def caseFunction (head : Text) (cases : List (Nat × Text)) (otherwise : Text) : List Text :=
  Text.blocks [
    ["    " ++ head, "    \x7b"],
    if cases.isEmpty then ["        Q_UNUSED(index);"]
    else
      Text.blocks [["        switch (index) \x7b"],
        cases.map fun (n, answer) =>
          Text.concat ["        case ", Text.ofNat n, ": return ", answer, ";"],
        ["        \x7d"]],
    [Text.concat ["        return ", otherwise, ";"], "    \x7d"]]

def byteArray (t : Text) : Text := Text.concat ["QByteArrayLiteral(\"", t, "\")"]

def memberCast (result : Text) (types : List Text) : Text :=
  Text.concat ["static_cast<", result, " (QObject::*)(", Text.join "," types, ")>(0)"]

def descriptorConstructor (c : ClassDecl) : List Text :=
  let o := c.ordinals
  let member (name : Text) : Text := "&ObjectType::" ++ name
  let entry (table : Text) (ordinal : Nat) : Text :=
    Text.concat ["        ", table, "[", Text.ofNat (ordinal + 1), "] = "]
  Text.blocks [
    [Text.concat ["    ", c.name, "SourceAPI()"], "    \x7b",
     Text.concat ["        _properties[0] = ", Text.ofNat o.properties.length, ";"]],
    o.properties.flatMap fun n =>
      let p := n.property
      let type := withScope c "typename ObjectType" p.type
      Text.blocks [
        [Text.concat [entry "_properties" n.ordinal, "qtro_prop_index<ObjectType>(", member p.name, ", ",
           memberCast type [], ",\"", p.name, "\");"]],
        if p.writable then
          [Text.concat ["        qtro_method_test<ObjectType>(", member p.setterName, ", ",
            memberCast "void" [type], ");"]]
        else [],
        if p.notifies then
          [Text.concat ["        qtro_method_test<ObjectType>(", member p.changeName, ", ",
            memberCast "void" [], ");"]]
        else []],
    [Text.concat ["        _signals[0] = ", Text.ofNat o.signals.length, ";"]],
    o.signals.map fun s =>
      Text.concat [entry "_signals" s.ordinal, "qtro_signal_index<ObjectType>(", member s.name, ", ",
        memberCast "void" s.paramTypes, ",signalArgCount+", Text.ofNat s.ordinal, ",signalArgTypes[",
        Text.ofNat s.ordinal, "]);"],
    [Text.concat ["        _methods[0] = ", Text.ofNat o.methods.length, ";"]],
    o.methods.map fun m =>
      Text.concat [entry "_methods" m.ordinal, "qtro_method_index<ObjectType>(", member m.slot.name, ", ",
        memberCast "void" m.slot.paramTypes, ",\"", m.slot.signature, "\",methodArgCount+",
        Text.ofNat m.ordinal, ",methodArgTypes[", Text.ofNat m.ordinal, "]);"],
    ["    \x7d"]]

def sourceApi (i : Interface) (c : ClassDecl) : List Text :=
  let o := c.ordinals
  let plans := classPlans i c
  let properties := Text.ofNat (o.properties.length + 1)
  let signals := Text.ofNat o.signals.length
  let methods := Text.ofNat o.methods.length
  Text.blocks [
    ["template <class ObjectType>", Text.concat ["struct ", c.name, "SourceAPI : public SourceApiMap"], "\x7b"],
    if plans.isEmpty then [] else plainDeclarations plans ++ [[]],
    descriptorConstructor c,
    ["",
     Text.concat ["    QString name() const Q_DECL_OVERRIDE \x7b return QStringLiteral(\"", c.name, "\"); \x7d"],
     Text.concat ["    QString typeName() const Q_DECL_OVERRIDE \x7b return QStringLiteral(\"", c.name,
       "\"); \x7d"],
     "    int propertyCount() const Q_DECL_OVERRIDE \x7b return _properties[0]; \x7d",
     "    int signalCount() const Q_DECL_OVERRIDE \x7b return _signals[0]; \x7d",
     "    int methodCount() const Q_DECL_OVERRIDE \x7b return _methods[0]; \x7d"],
    tableLookup "Property" "_properties", tableLookup "Signal" "_signals", tableLookup "Method" "_methods",
    parameterFunctions "signal" "sig" "_signals" o.signals.isEmpty,
    parameterFunctions "method" "method" "_methods" o.methods.isEmpty,
    caseFunction "int propertyIndexFromSignal(int index) const Q_DECL_OVERRIDE"
      (o.changes.map fun s => (s.ordinal,
        Text.concat ["_properties[", Text.ofNat (s.property?.getD 0 + 1), "]"])) "-1",
    caseFunction "int propertyRawIndexFromSignal(int index) const Q_DECL_OVERRIDE"
      (o.changes.map fun s => (s.ordinal, Text.ofNat (s.property?.getD 0 + 1))) "-1",
    caseFunction "const QByteArray signalSignature(int index) const Q_DECL_OVERRIDE"
      (o.signals.map fun s => (s.ordinal, byteArray s.signature)) (byteArray []),
    caseFunction "const QByteArray methodSignature(int index) const Q_DECL_OVERRIDE"
      (o.methods.map fun m => (m.ordinal, byteArray m.slot.signature)) (byteArray []),
    ["    QMetaMethod::MethodType methodType(int) const Q_DECL_OVERRIDE", "    \x7b",
     "        return QMetaMethod::Slot;", "    \x7d"],
    caseFunction "const QByteArray typeName(int index) const Q_DECL_OVERRIDE"
      (o.methods.map fun m => (m.ordinal, byteArray m.slot.returnType)) (byteArray []),
    ["", Text.concat ["    int _properties[", properties, "];"],
     Text.concat ["    int _signals[", Text.ofNat (o.signals.length + 1), "];"],
     Text.concat ["    int _methods[", Text.ofNat (o.methods.length + 1), "];"]],
    if o.signals.isEmpty then []
    else
      [Text.concat ["    int signalArgCount[", signals, "];"],
       Text.concat ["    const int* signalArgTypes[", signals, "];"]],
    [Text.concat ["    int methodArgCount[", methods, "];"],
     Text.concat ["    const int* methodArgTypes[", methods, "];"], "\x7d;", "", ""]]

/-! ## Headers -/

def modeIncludes : Mode → List Text
  | .replica => ["qremoteobjectpendingcall.h", "qremoteobjectreplica.h"]
  | .source => ["qremoteobjectsource.h"]
  | .merged => ["qremoteobjectpendingcall.h", "qremoteobjectreplica.h", "qremoteobjectsource.h"]

def includeLines (mode : Mode) : List Text :=
  (modeIncludes mode).map fun file => Text.concat ["#include <QtRemoteObjects/", file, ">"]

def guard? (file? : Option Text) : Option Text :=
  match file? with
  | some file => if file.guardName.isEmpty then none else some file.guardName
  | none => none

def opening (guard? : Option Text) : List Text :=
  Text.blocks [
    match guard? with
    | some guard => ["#ifndef " ++ guard, "#define " ++ guard]
    | none => ["#pragma once"],
    ["// This is an autogenerated file.",
     "// Do not edit this file, any changes made will be lost the next time it is generated.", "",
     "#include <QtCore/qobject.h>", "#include <QtCore/qdatastream.h>", "#include <QtCore/qvariant.h>",
     "#include <QtCore/qmetatype.h>", "", "#include <QtRemoteObjects/qremoteobjectnode.h>"]]

def shared (i : Interface) : List Text :=
  Text.blocks [i.directives, i.enums.flatMap fun e => globalEnum (planOf i e.name e), i.records.flatMap record]

def sourceSide (i : Interface) (c : ClassDecl) : List Text :=
  Text.blocks [roleClass i c .source, roleClass i c .simpleSource, sourceApi i c]

def sides (i : Interface) (mode : Mode) (c : ClassDecl) : List Text :=
  (if mode.hasReplica then roleClass i c .replica else []) ++
  (if mode.hasSource then sourceSide i c else [])

def usedEnumOperators (name : Text) : List Text :=
  let wire := WireType.ofUsedEnum.name
  [Text.concat ["inline QDataStream &operator<<(QDataStream &out, ", name, " value)"], "\x7b",
   Text.concat ["    out << static_cast<", wire, ">(value);"], "    return out;", "\x7d", "",
   Text.concat ["inline QDataStream &operator>>(QDataStream &in, ", name, " &value)"], "\x7b",
   Text.concat ["    ", wire, " intValue = 0;"], "    in >> intValue;",
   Text.concat ["    value = static_cast<", name, ">(intValue);"], "    return in;", "\x7d", ""]

def closing (i : Interface) (guard? : Option Text) : List Text :=
  i.usedEnums.flatMap usedEnumOperators ++
    match guard? with
    | some guard => ["#endif // " ++ guard]
    | none => []

def render (i : Interface) (mode : Mode) (file? : Option Text) : Text :=
  let guard? := guard? file?
  Text.lines ((Text.blocks [opening guard?, includeLines mode, shared i, i.classes.flatMap (sides i mode),
    closing i guard?]).map Text.shown)

end Counterpart.QtHeader
