import Counterpart.Script.Native.Number
import Counterpart.Script.Native.Sequence
import Counterpart.Script.Search
import Counterpart.Text.Numeric
import Counterpart.Text.Title
import Counterpart.Text.Word

/-!
The built-in operations of texts.
-/
namespace Counterpart.Script

variable {σ α : Type} (label name : Text)

def encodeText (t encoding handler : Text) : Run σ Bytes := do
  return (← bytesOf? (← call (.native .method "str" "encode") [.text t, .text encoding, .text handler])).getD []

def decodeBytes (b : Bytes) (encoding handler : Text) : Run σ Text := do
  return (← textOf? (← call (.native .method "bytes" "decode") [.bytes b, .text encoding, .text handler])).getD []

def textArgument (refusal : Text) (o : Obj) : Run σ Text := do
  (← textOf? o).getDM do typeError [refusal, ← typeName o]

def textOption (other : Text) : Option Obj → Run σ Text
  | none => return other
  | some o => textArgument (Text.concat [label, "() argument '", name, "' must be str, not "]) o

def newText : Native σ := fun args named => do
  let cls := args.headD .none
  let given ← namedArgs "str" ["object", "encoding", "errors"] 0 (args.drop 1) named
  let t ← match given.getD 0 none with
    | none => pure []
    | some o =>
      if (given.getD 1 none).isNone && (given.getD 2 none).isNone then strOf o
      else do
        let encoding ← textOption "str" "encoding" "utf-8" (given.getD 1 none)
        let handler ← textOption "str" "errors" "strict" (given.getD 2 none)
        match ← bytesOf? o, ← textOf? o with
        | some b, _ => decodeBytes b encoding handler
        | none, some _ => typeError ["decoding str is not supported"]
        | none, none => typeError ["decoding to str: need a bytes-like object, ", ← typeName o, " found"]
  valueIn cls "str" (.text t)

def heldText (o : Obj) : Run σ Text := do return (← textOf? o).getD []

/-! ## Searching -/

def searchBounds (length : Nat) (args : List Obj) : Run σ (Nat × Nat × Bool) := do
  let bound (o : Obj) (other : Int) : Run σ Int := do
    match o with
    | .none => return other
    | o =>
      match ← special? o "__index__" with
      | some _ => indexOf o
      | none => typeError ["slice indices must be integers or None or have an __index__ method"]
  let n : Int := length
  let low ← bound (args.getD 0 .none) 0
  let high ← bound (args.getD 1 .none) n
  let high := if n < high then n else if high < 0 then max 0 (high + n) else high
  let low := if low < 0 then max 0 (low + n) else low
  return (low.toNat, high.toNat, high < low)

def searchMethod [BEq α] (row part : Obj → Run σ (List α))
    (find : List α → List α → Option Int) (nothing : Run σ Obj) (fromStart : Bool) : Native σ := fun args named => do
  noNamed name named
  checkGiven ((name.reverse.takeWhile (· ≠ CodePoint.ofChar '.')).reverse) 1 3 (args.drop 1)
  let t ← row (args.headD .none)
  let wanted ← part (args.getD 1 .none)
  let (low, high, isEmpty) ← searchBounds t.length (args.drop 2)
  if isEmpty then nothing
  else
    match find wanted ((t.take high).drop low) with
    | some n => return .int (if fromStart then n + low else n)
    | none => nothing

def searchNatives [BEq α] (cls : Text) (row part : Obj → Run σ (List α))
    (missing : Text) : Natives σ :=
  let first (p t : List α) : Option Int := (Search.first? p t).map Int.ofNat
  let last (p t : List α) : Option Int := (Search.last? p t).map Int.ofNat
  let notFound : Run σ Obj := fail "ValueError" missing
  let search (name : String) (find : List α → List α → Option Int) (nothing : Run σ Obj) (fromStart : Bool := true) :=
    (name, searchMethod (cls ++ "." ++ name) row part find nothing fromStart)
  [search "find" first (return .int (-1)), search "rfind" last (return .int (-1)), search "index" first notFound,
   search "rindex" last notFound, search "count" (fun p t => some (Search.count p t)) (return .int 0) false]

def stripMethod (left right : Bool) : Native σ := orderedMethod "str." label 0 1 fun self given => do
  let t ← heldText self
  match given.headD .none with
  | .none => return .text (Search.strip left right CodePoint.isBlank t)
  | o =>
    let some edges ← textOf? o | typeError [label, " arg must be None or str"]
    return .text (Search.strip left right (edges.contains ·) t)

def edgeMethod (isEnd : Bool) : Native σ := fun args named => do
  noNamed ("str." ++ label) named
  checkGiven label 1 3 (args.drop 1)
  let t ← heldText (args.headD .none)
  let (low, high, isEmpty) ← searchBounds t.length (args.drop 2)
  let t := (t.take high).drop low
  let fits (s : Text) : Bool := !isEmpty && (if isEnd then Search.endsWith s t else Search.startsWith s t)
  match ← plainValue (args.getD 1 .none) with
  | .tuple items =>
    return .truth (← items.anyM fun o => do
      let some s ← textOf? o | typeError ["tuple for ", label, " must only contain str, not ", ← typeName o]
      return fits s)
  | o =>
    if let some s ← textOf? o then return .truth (fits s)
    typeError [label, " first arg must be str or a tuple of str, not ", ← typeName (args.getD 1 .none)]

def cutLimit (o? : Option Obj) : Run σ (Option Nat) := do
  let some o := o? | return none
  let n ← indexOf o
  return if n < 0 then none else some n.toNat

def splitMethod (fromEnd : Bool) : Native σ := fun args named => do
  let given ← namedArgs label ["sep", "maxsplit"] 0 (args.drop 1) named
  let t ← heldText (args.headD .none)
  let limit? ← cutLimit (given.getD 1 none)
  match (given.getD 0 none).getD .none with
  | .none =>
    let words := if fromEnd then Search.wordsFromEnd CodePoint.isBlank limit? t
      else Search.words CodePoint.isBlank (t.length + 1) limit? t
    newList (words.map .text)
  | o =>
    match ← textOf? o with
    | some [] => fail "ValueError" "empty separator"
    | some mark => newList ((if fromEnd then Search.cutFromEnd mark limit? t else Search.cut mark limit? t).map .text)
    | none => typeError ["must be str or None, not ", ← typeName o]

def textTest (name : String) (test : Text → Bool) : String × Native σ :=
  (name, nullary ("str." ++ name) fun self => do return .truth (test (← heldText self)))

def textMap (name : String) (f : Text → Text) : String × Native σ :=
  (name, nullary ("str." ++ name) fun self => do return .text (f (← heldText self)))

def plainTextNatives : Natives σ :=
  let all (test : CodePoint → Bool) (t : Text) : Bool := !t.isEmpty && t.all test
  [textMap "upper" Text.upper, textMap "lower" Text.lower, textMap "casefold" Text.folded,
   textMap "title" Text.titled, textMap "capitalize" Text.sentence, textMap "swapcase" Text.swapped,
   textTest "isidentifier" Text.isName, textTest "isdigit" (all (·.digitSign?.isSome)),
   textTest "isdecimal" (all (·.isDigit)), textTest "isnumeric" (all (·.numeric?.isSome)),
   textTest "isspace" (all (·.isBlank)), textTest "isascii" (fun t => t.all (·.val < 128)),
   textTest "isalnum" (all fun c => c.category.isLetter || c.numeric?.isSome),
   textTest "isalpha" (all (·.category.isLetter)), textTest "isupper" Text.isUpper,
   textTest "islower" Text.isLower, textTest "istitle" Text.isTitled,
   textTest "isprintable" (fun t => t.all (·.isPrintable))]

def textNatives : Natives σ :=
  let seen? (o : Obj) : Run σ (Option Obj) := do return (← textOf? o).map .text
  comparingNatives seen? seen? ++ plainTextNatives ++ sequenceNatives heldText (return .text ·) ++
  searchNatives "str" heldText (textArgument "must be str, not ") "substring not found" ++
  [("__new__", newText),
   ("__repr__", operator0 fun self => do return .text (Quoted.text (← heldText self))),
   ("__str__", operator0 fun self => .text <$> heldText self),
   ("__hash__", operator0 fun self => do return .int (hashText (← heldText self))),
   ("__iter__", operator0 fun self => do newIterator "str_ascii_iterator" ((← heldText self).map fun c => .text [c])),
   ("__contains__", operator1 fun self o => do
      let some part ← textOf? o | typeError ["'in <string>' requires string as left operand, not ", ← typeName o]
      return .truth (Search.first? part (← heldText self)).isSome),
   ("__add__", operator1 fun self o => do
      let some t ← textOf? o | typeError ["can only concatenate str (not \"", ← typeName o, "\") to str"]
      return .text ((← heldText self) ++ t)),
   ("__getitem__", operator1 fun self key => do
      match ← rowItems "string" (← heldText self) key "string index out of range"
          "string indices must be integers, not " with
      | .inl c => return .text [c]
      | .inr t => return .text t),
   ("__getnewargs__", nullary "str.__getnewargs__" fun self => do return .tuple [.text (← heldText self)]),
   ("join", joinNative "str" "str instance" textOf? Text.join (return .text ·)),
   ("strip", stripMethod "strip" true true), ("lstrip", stripMethod "lstrip" true false),
   ("rstrip", stripMethod "rstrip" false true),
   ("startswith", edgeMethod "startswith" false), ("endswith", edgeMethod "endswith" true),
   ("replace", orderedMethod "str." "replace" 2 3 fun self given => do
      let old ← textArgument "replace() argument 1 must be str, not " (given.headD .none)
      let new ← textArgument "replace() argument 2 must be str, not " (given.getD 1 .none)
      return .text (Search.replace old new (← cutLimit given[2]?) (← heldText self))),
   ("split", splitMethod "split" false), ("rsplit", splitMethod "rsplit" true)]

end Counterpart.Script
