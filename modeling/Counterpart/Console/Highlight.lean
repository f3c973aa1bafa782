import Counterpart.Console.Styled
import Counterpart.Script.Foundation

/-!
What a terminal sets off in a text of its own accord: tags, attributes, brackets, addresses, calls, constants,
numbers, paths, quotations and links. Each becomes a stretch of the text.
-/
namespace Counterpart.Console

def thingPatterns : List Text :=
  ["(?P<ipv4>[0-9]\x7b1,3\x7d\\.[0-9]\x7b1,3\x7d\\.[0-9]\x7b1,3\x7d\\.[0-9]\x7b1,3\x7d)",
   "(?P<ipv6>([A-Fa-f0-9]\x7b1,4\x7d::?)\x7b1,7\x7d[A-Fa-f0-9]\x7b1,4\x7d)",
   "(?P<eui64>(?:[0-9A-Fa-f]\x7b1,2\x7d-)\x7b7\x7d[0-9A-Fa-f]\x7b1,2\x7d|(?:[0-9A-Fa-f]\x7b1,2\x7d:)\x7b7\x7d[0-9A-Fa-f]\x7b1,2\x7d|(?:[0-9A-Fa-f]\x7b4\x7d\\.)\x7b3\x7d[0-9A-Fa-f]\x7b4\x7d)",
   "(?P<eui48>(?:[0-9A-Fa-f]\x7b1,2\x7d-)\x7b5\x7d[0-9A-Fa-f]\x7b1,2\x7d|(?:[0-9A-Fa-f]\x7b1,2\x7d:)\x7b5\x7d[0-9A-Fa-f]\x7b1,2\x7d|(?:[0-9A-Fa-f]\x7b4\x7d\\.)\x7b2\x7d[0-9A-Fa-f]\x7b4\x7d)",
   "(?P<uuid>[a-fA-F0-9]\x7b8\x7d-[a-fA-F0-9]\x7b4\x7d-[a-fA-F0-9]\x7b4\x7d-[a-fA-F0-9]\x7b4\x7d-[a-fA-F0-9]\x7b12\x7d)",
   "(?P<call>[\\w.]*?)\\(",
   "\\b(?P<bool_true>True)\\b|\\b(?P<bool_false>False)\\b|\\b(?P<none>None)\\b",
   "(?P<ellipsis>\\.\\.\\.)",
   "(?P<number_complex>(?<!\\w)(?:\\-?[0-9]+\\.?[0-9]*(?:e[-+]?\\d+?)?)(?:[-+](?:[0-9]+\\.?[0-9]*(?:e[-+]?\\d+)?))?j)",
   "(?P<number>(?<!\\w)\\-?[0-9]+\\.?[0-9]*(e[-+]?\\d+?)?\\b|0x[0-9a-fA-F]*)",
   "(?P<path>\\B(/[-\\w._+]+)*\\/)(?P<filename>[-\\w._+]*)?",
   "(?<![\\\\\\w])(?P<str>b?'''.*?(?<!\\\\)'''|b?'.*?(?<!\\\\)'|b?\"\"\".*?(?<!\\\\)\"\"\"|b?\".*?(?<!\\\\)\")",
   "(?P<url>(file|https|http|ws|wss)://[-0-9a-zA-Z$_+!`(),.?/;:&=%#~@]*)"]

def highlightPatterns : List Text :=
  ["(?P<tag_start><)(?P<tag_name>[-\\w.:|]*)(?P<tag_contents>[\\w\\W]*)(?P<tag_end>>)",
   "(?P<attrib_name>[\\w_]\x7b1,50\x7d)=(?P<attrib_value>\"?[\\w_]+\"?)?",
   "(?P<brace>[][\x7b\x7d()])",
   Text.join "|" thingPatterns]

def readPattern (t : Text) : Regular.Pattern × List Nat :=
  match Script.answer? "re" "_read" [.text t, .int 0] with
  | some (.tuple [code, _, groups, .tuple names]) =>
    (Script.patternIn code (Script.countIn groups), names.map fun name =>
      match name with
      | .tuple [_, number] => Script.countIn number
      | _ => 0)
  | _ => (⟨.empty, 0⟩, [])

def stretchesOf (groups : List Nat) (found : Regular.Found) : List Stretch :=
  groups.filterMap fun number =>
    match (found.spans[number]?).join with
    | some (start, stop) => if start < stop then some ⟨start, stop⟩ else none
    | none => none

/-- What some groups of a pattern set off in a text from a place on. The fuel bounds the number of places. -/
def highlightsFrom (p : Regular.Pattern) (groups : List Nat) (s : Regular.Subject) : Nat → Bool → List Stretch
  | 0, _ => []
  | fuel + 1, moved =>
    match p.search s moved with
    | none => []
    | some found =>
      match (found.spans[0]?).join with
      | none => []
      | some (start, stop) =>
        stretchesOf groups found ++ highlightsFrom p groups { s with first := stop } fuel (start = stop)

def highlights (t : Text) : List Stretch :=
  highlightPatterns.flatMap fun pattern =>
    let (p, groups) := readPattern pattern
    highlightsFrom p groups { letters := t.toArray, last := t.length } (2 * t.length + 2) false

/-- A text with what is set off in it. Where nothing joins characters, it makes no difference. -/
def Styled.highlighted (s : Styled) : Styled :=
  if s.text.any fun c => c = zeroWidthJoiner || c = pictureSelector then
    { s with stretches := s.stretches ++ highlights s.text }
  else s

end Counterpart.Console
