import Counterpart.Script.Scope

/-!
The objects that a module works with. Small values stand for themselves; everything that can change, or that
is told apart from its equals, has an address in a store.
-/
namespace Counterpart.Script

abbrev Address := Nat

inductive NativeSort where
  | function
  | operator
  | method
  | classMethod
  | getter
  | member
  deriving DecidableEq, Repr

inductive Obj where
  | none
  | notImplemented
  | ellipsis
  | truth (b : Bool)
  | int (i : Int)
  | real (d : Double)
  | complex (re im : Double)
  | text (t : Text)
  | bytes (b : Bytes)
  | tuple (items : List Obj)
  | native (sort : NativeSort) (owner name : String)
  | bound (self : Obj) (sort : NativeSort) (owner name : String)
  | ref (address : Address)

instance : Inhabited Obj := ⟨.none⟩

abbrev Attrs := List (Text × Obj)

abbrev Entries := List (Obj × Obj)

structure Slot where
  kind : ParamKind
  name : Text
  default? : Option Obj := Option.none

inductive Body where
  | block (body : List Stmt) (names : Names) (isGenerator isAsync : Bool)
  | expr (e : Expr)
  | native (owner name : String) (given : List Obj)
  | host (number : Nat)

structure Function where
  name : Text
  qualname : Text
  slots : List Slot
  body : Body
  closure : List Address := []
  /-- The module that it belongs to. -/
  module : Address := 0
  cls? : Option Text := Option.none
  doc : Obj := Obj.none
  /-- The annotations of its parameters and of its result, once somebody asked for them or they were given. -/
  hints? : Option Obj := Option.none
  /-- What it is said to be from, if that was set. -/
  origin? : Option Obj := Option.none

/-- What instances of a class are made of: their own attributes only, or a value of a built-in class too. -/
structure Layout where
  /-- The built-in class whose values they hold. -/
  root : Address
  hasAttributes : Bool

structure ClassInfo where
  name : Text
  qualname : Text
  bases : List Address
  /-- The class and all it derives from, in the order in which attributes are looked up. -/
  order : List Address
  layout : Layout
  isFixed : Bool := false
  isFinal : Bool := false
  isAbstract : Bool := false
  title? : Option Text := Option.none

def ClassInfo.title (info : ClassInfo) : Text := info.title?.getD info.name

inductive Prospect where
  | pending
  | settled (value : Obj)
  | cancelled

inductive Standing where
  | module
  | function (frame : Address)
  | cls (space : Obj)

structure Env where
  standing : Standing
  names : Names := {}
  closure : List Address := []
  module : Address
  cls? : Option Text := Option.none
  qualifier : Text := []
  cell? : Option Address := Option.none

inductive Flow where
  | next
  | stop
  | again
  | give (value : Obj)

/-- How a statement of a function that pauses ends: it goes on in some way, or fails. -/
inductive Signal where
  | flow (f : Flow)
  | fail (error : Obj)

/-- What is left to handlers of parts of an error: the part that none of them took yet, the errors that they raised,
and the parts that they raised again. -/
structure Remainder where
  rest? : Option Obj
  raised : List Obj := []
  again : List Obj := []

/-- What is left to do of statements that guard others, and of the body of a function that pauses. Values are kept
under names that no text can have. -/
inductive Task where
  /-- Takes a statement. -/
  | run (s : Stmt)
  | keep (place : Text) (e : Expr)
  | bind (target : Expr) (value : Obj)
  | pause (place : Text) (e : Expr)
  | receive (place : Text)
  /-- Gives all items of an object away, or what an object that is awaited gives away. -/
  | delegate (place : Text) (e : Expr) (isAwaited : Bool)
  | forward (place : Text) (it : Obj)
  | decide (condition : Expr) (yes no : List Task)
  /-- Asks the condition of a loop again. -/
  | loop (condition : Expr) (body otherwise : List Stmt)
  | iterate (target source : Expr) (body otherwise : List Stmt)
  | each (target : Expr) (it : Obj) (body otherwise : List Stmt)
  | eachAwaited (target : Expr) (it : Obj) (body otherwise : List Stmt)
  | arrive (place : Text) (target : Expr) (it : Obj) (body otherwise : List Stmt)
  | guarded (handlers : List Handler) (otherwise : List Stmt)
  /-- Does something about the parts of an error. One of them may have been taken before. -/
  | parts (handlers : List Handler) (whole : Obj) (taken? : Option Obj) (r : Remainder)
  /-- An error is dealt with. -/
  | handled (name? : Option Text)
  | finally (last : List Stmt)
  | resume (s : Signal)
  | enter (isAsync : Bool) (manager : Expr) (target? : Option Expr) (rest : List Task)
  | leave (isAsync : Bool) (manager exit : Obj)
  | left (place : Text) (s : Signal)
  | cases (place : Text) (cases : List Case)

inductive Stage where
  | fresh | paused | running | ended
  deriving DecidableEq, Repr

structure Generator where
  env : Env
  tasks : List Task
  handled : List Obj := []
  stage : Stage := .fresh

inductive Payload where
  | nothing
  | value (v : Obj)
  | list (items : List Obj)
  | dict (entries : Entries)
  | attributes (owner : Address)
  | view (owner : Address)
  /-- Members with their hashes, in the places of a table. -/
  | set (places : Array (Option (Int × Obj)))
  | buffer (b : Bytes)
  | cls (info : ClassInfo)
  | function (f : Function)
  | method (self fn : Obj)
  | wrapper (fn : Obj)
  | property (get set delete : Obj)
  | place (cls : Address) (name : Text)
  | above (cls : Address) (self : Obj) (start : Address)
  | module
  | frame (names : List Text)
  | iterator (items : List Obj)
  | stream (parts : List Obj)
  | generator (g : Generator)
  | range (start stop step : Int)
  | slice (start stop step : Obj)
  | future (state : Prospect) (callbacks : List Obj)

/-- An object in the store: its class, its own attributes, and what it holds. -/
structure Cell where
  cls : Address
  attrs : Attrs := []
  payload : Payload := .nothing

instance : Inhabited Cell := ⟨{ cls := 0 }⟩

/-- What a module works on; `host` belongs to those who run it. -/
structure World (σ : Type) where
  heap : Array Cell
  modules : List (Text × Address) := []
  pending : List Text := []
  depth : Nat := 0
  /-- The modules of the functions that are running, innermost first. -/
  callers : List Address := []
  handled : List Obj := []
  /-- The objects of which it is being found out how they are shown. -/
  showing : List Address := []
  warnings : List Text := []
  /-- The registered types by name, in the order of their first registration. -/
  codecs : Entries := []
  host : σ

end Counterpart.Script
