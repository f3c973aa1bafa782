import Counterpart.Script.Scope
import Counterpart.Script.Statement

/-!
What a module must not say although its grammar is right: results outside of functions, parameters of one
name, declarations that come too late, and the like.
-/
namespace Counterpart.Script

variable (cls? : Option Text) (n source name : Text)

/-- The name inside a class: two underscores in front, and none of that behind, make it a name of that class
alone. Names with points in them stay. -/
def privateName : Text :=
  match cls? with
  | none => name
  | some cls =>
    let owner := cls.dropWhile (· = CodePoint.ofChar '_')
    let isDunder := Text.startsWith "__" name.reverse
    if Text.startsWith "__" name && !isDunder && !owner.isEmpty && !name.contains (CodePoint.ofChar '.') then
      ("_" ++ owner ++ name)
    else name

inductive Surrounding where
  | module
  | function (isAsync : Bool)
  | classBody
  deriving DecidableEq, Repr

structure Place where
  surrounding : Surrounding := .module
  inLoop : Bool := false
  inCollection : Bool := false
  running : List Text := []
  /-- The names of the functions around, innermost first. -/
  enclosing : List (List Text) := []
  cls? : Option Text := none
  blocks : Nat := 0
  /-- In a handler of a part of an error, which cannot be left early. -/
  inPart : Bool := false

namespace Place

def inFunction (p : Place) : Bool :=
  match p.surrounding with
  | .function _ => true
  | _ => false

def inAsync (p : Place) : Bool := p.surrounding = .function true

def enterFunction (p : Place) (isAsync : Bool) (names : List Text) : Place :=
  { surrounding := .function isAsync, enclosing := names :: p.enclosing, cls? := p.cls? }

def enterClass (p : Place) (name : Text) : Place :=
  { surrounding := .classBody, enclosing := p.enclosing.map (("__class__" : Text) :: ·), cls? := some name }

end Place

def debugName : Text := "__debug__"

def areNamesValid (names : List Text) : Bool := decide names.Nodup && !names.contains debugName

def areParamsValid (cls? : Option Text) (params : List Param) : Bool :=
  areNamesValid (params.map fun p => privateName cls? p.name)

def areArgumentsValid (args : List Argument) : Bool :=
  areNamesValid (args.filterMap fun
    | .named n _ => some n
    | _ => none)

def Expr.unstarred : Expr → Expr
  | .starred e => e
  | e => e

def starCount (items : List Expr) : Nat :=
  (items.filter fun
    | .starred _ => true
    | _ => false).length

def Expr.isValidTarget : Nat → Expr → Bool
  | 0, _ => false
  | fuel + 1, e =>
    match e with
    | .name n | .dotted _ n => n ≠ debugName
    | .tuple items | .list items =>
      decide (starCount items ≤ 1) && (items.map Expr.unstarred).all (isValidTarget fuel)
    | .starred _ => false
    | _ => true

def Expr.isValid : Nat → Place → Expr → Bool
  | 0, _, _ => false
  | fuel + 1, p, e =>
    let each (es : List Expr) : Bool := es.all (isValid fuel p)
    match e with
    | .tuple items | .list items | .set items => each (items.map Expr.unstarred)
    | .starred _ => false
    | .call callee args => areArgumentsValid args && each (callee :: args.map Argument.value)
    | .item owner index => each [owner, index.unstarred]
    | .lambda params body =>
      areParamsValid p.cls? params && each (params.filterMap Param.default?) &&
        isValid fuel (p.enterFunction false (params.map Param.name)) body
    | .bind n value =>
      n ≠ debugName && !p.running.contains n && !(p.inCollection && p.surrounding = .classBody) && isValid fuel p value
    | .collect _ element value? clauses =>
      let running := clauses.flatMap fun c => Expr.targetNames treeDepth c.target
      let q := { p with inCollection := true, running := running ++ p.running }
      let sources := clauses.map Clause.source
      each (sources.take 1) && (sources.drop 1).all (isValid fuel q) &&
        sources.all (fun s => (Expr.boundNames treeDepth s).isEmpty) &&
        clauses.all (fun c => (!c.isAsync || p.inAsync) && Expr.isValidTarget treeDepth c.target &&
          isValid fuel q c.target && c.conditions.all (isValid fuel q)) &&
        (element :: value?.toList).all (isValid fuel q)
    | .await inner => p.inAsync && isValid fuel p inner
    | .yield inner? => p.inFunction && !p.inCollection && each (inner?.toList.map Expr.unstarred)
    | .yieldEach inner => p.inFunction && !p.inAsync && !p.inCollection && isValid fuel p inner
    | e => each e.parts

def Expr.canAnnotate : Nat → Expr → Bool
  | 0, _ => false
  | fuel + 1, e =>
    match e with
    | .bind .. | .yield _ | .yieldEach _ | .await _ => false
    | e => (e.parts ++ e.ownParts).all (canAnnotate fuel)

def Expr.mentions (n : Text) : Nat → Expr → Bool
  | 0, _ => false
  | fuel + 1, e =>
    match e with
    | .name m => m = n
    | .bind m value => m = n || mentions n fuel value
    | e => e.parts.any (mentions n fuel)

def flattened : Nat → List Stmt → List Stmt
  | 0, body => body
  | fuel + 1, body => body.flatMap fun s => s :: s.blocks.flatMap (flattened fuel)

def Stmt.declared : Stmt → List Text
  | .global names | .nonlocal names => names
  | _ => []

def Stmt.mentions (s : Stmt) : Bool := s.targetNames.contains n || s.exprs.any (Expr.mentions n treeDepth)

def areDeclaredEarly : List Stmt → List Stmt → Bool
  | _, [] => true
  | before, s :: rest =>
    s.declared.all (fun n => !before.any (Stmt.mentions n)) && areDeclaredEarly (s :: before) rest

/-- The declarations of a body are right: they come early, agree with each other and with the parameters, and
what belongs to a function around is bound there. -/
def areDeclarationsValid (p : Place) (params : List Text) (body : List Stmt) : Bool :=
  let all := flattened treeDepth body
  let names := namesOf body
  let annotated := all.filterMap fun
    | .annotate (.name n) _ _ true => some n
    | _ => none
  areDeclaredEarly [] all &&
    (names.global ++ names.nonlocal).all (fun n => !params.contains n && !annotated.contains n) &&
    names.nonlocal.all fun n => !names.global.contains n && p.surrounding ≠ .module && p.enclosing.any (·.contains n)

def Stmt.bindsWell (s : Stmt) : Bool :=
  let targets := match s with
    | .annotate target _ _ _ => [target]
    | s => s.targets
  !s.targetNames.contains debugName && targets.all (Expr.isValidTarget treeDepth)

def areCasesValid (cases : List Case) : Bool :=
  cases.all (fun c => c.pattern.isValid) &&
    !(cases.dropLast.any fun c => c.pattern.fitsAll && c.guard?.isNone)

def blockLimit : Nat := 20

def Stmt.isValid : Nat → Place → Stmt → Bool
  | 0, _, _ => false
  | fuel + 1, p, s =>
    let exprs (es : List Expr) : Bool := es.all (Expr.isValid treeDepth p)
    let body (q : Place) (ss : List Stmt) : Bool := ss.all (isValid fuel q)
    let inner := { p with blocks := p.blocks + 1 }
    s.bindsWell && decide (p.blocks ≤ blockLimit) &&
    match s with
    | .assign targets value => exprs (value :: targets)
    | .annotate target hint value? _ => exprs (target :: value?.toList) && Expr.canAnnotate treeDepth hint
    | .give value? => p.inFunction && !p.inPart && exprs value?.toList
    | .stop | .next => p.inLoop
    | .loadFrom _ module names => (!names.isEmpty || p.surrounding = .module) && module ≠ (["__future__"] : List Text)
    | .loop condition b o => exprs [condition] && body { inner with inLoop := true } b && body p o
    | .each isAsync target source b o =>
      (!isAsync || p.inAsync) && exprs [target, source] && body { inner with inLoop := true } b && body p o
    | .within isAsync items b =>
      (!isAsync || p.inAsync) && exprs (items.flatMap fun (e, target?) => e :: target?.toList) && body inner b
    | .attempt b handlers o l =>
      body inner b && body inner o && body inner l &&
        handlers.all fun h =>
          let place := if h.isGroup then { inner with inLoop := false, inPart := true } else inner
          exprs h.class?.toList && body place h.body
    | .function _ params returns? b decorators isAsync =>
      let names := params.map Param.name
      let q := p.enterFunction isAsync (names ++ (namesOf b).own)
      areParamsValid p.cls? params && exprs (decorators ++ params.filterMap Param.default?) &&
        (params.filterMap Param.hint? ++ returns?.toList).all (fun e => Expr.canAnnotate treeDepth e.unstarred) &&
        areDeclarationsValid { p with surrounding := q.surrounding } names b && body q b
    | .classDef n args b decorators =>
      let q := p.enterClass n
      areArgumentsValid args && exprs (decorators ++ args.map Argument.value) &&
        areDeclarationsValid { p with surrounding := q.surrounding } [] b && body q b
    | .select subject cases =>
      exprs [subject.unstarred] && exprs (cases.flatMap fun c => c.pattern.exprs ++ c.guard?.toList) &&
        areCasesValid cases && s.blocks.all (body p)
    | s => exprs s.exprs && s.blocks.all (body p)

def features : List Text :=
  wordList ("nested_scopes generators division absolute_import with_statement print_function unicode_literals " ++
    "barry_as_FLUFL generator_stop annotations")

def afterFeatures : List Stmt → Option (List Stmt)
  | .loadFrom 0 module names :: rest =>
    if module = (["__future__"] : List Text) then
      if !names.isEmpty && names.all (fun (n, _) => features.contains n) then afterFeatures rest else none
    else some (.loadFrom 0 module names :: rest)
  | body => some body

def moduleBody : List Stmt → Option (List Stmt)
  | .expr (.constant (.text t)) :: rest => (afterFeatures rest).map (.expr (.constant (.text t)) :: ·)
  | body => afterFeatures body

def compileModule : Except ReadError (List Stmt) := do
  if source.any (·.val == 0) then throw .zero
  let body ← readModule source
  let some rest := moduleBody body | throw .plain
  if areDeclarationsValid {} [] rest && rest.all (Stmt.isValid treeDepth {}) then return body
  throw .plain

def compileExpression : Except ReadError Expr := do
  if source.any (·.val == 0) then throw .zero
  let e ← readExpression source
  if Stmt.isValid treeDepth {} (.expr e) then return e else throw .plain

end Counterpart.Script
