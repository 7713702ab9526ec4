import HttpRouter.Calendar.Moment
import HttpRouter.Decimal.Shortest
import HttpRouter.Fields
import HttpRouter.Text.Blank
import HttpRouter.Text.Quoted

/-!
# Values

The data that handlers return and links are made of. Every value has a *text*, which is what a page or a link shows, and
a *written form*, which is how it appears inside another value or a message: texts are quoted there.
-/

namespace HttpRouter

open Calendar (Date Moment)
open Text (joinWith)

/-- A value. A `proxy` is a mapping of another sort than the usual one, such as a read-only view of a mapping. Of an
`object` only the text and the written form are known. -/
inductive Value where
  | null
  | bool (b : Bool)
  | int (n : Int)
  | float (x : Float)
  | text (s : Letters)
  | bytes (octets : List UInt8)
  | list (items : List Value)
  | tuple (items : List Value)
  | mapping (entries : List (Value × Value))
  | moment (m : Moment)
  | date (d : Date)
  | proxy (entries : List (Value × Value)) (shown written : Letters)
  | object (shown written : Letters)
deriving Inhabited

namespace Value

/-- Numbers separated by commas. -/
def numbers (ns : List Nat) : String :=
  ", ".intercalate (ns.map toString)

/-- The written form of a moment: its parts, without trailing zero seconds. -/
def writtenMoment (m : Moment) : String :=
  let clock := if m.micro ≠ 0 then [m.hour, m.minute, m.second, m.micro]
    else if m.second ≠ 0 then [m.hour, m.minute, m.second] else [m.hour, m.minute]
  let zone := match m.offset with
    | none => ""
    | some o => ", tzinfo=datetime.timezone" ++ if o = 0 then ".utc" else "(" ++ Moment.spanText o ++ ")"
  "datetime.datetime(" ++ numbers ([m.date.year, m.date.month, m.date.day] ++ clock) ++ zone ++ ")"

mutual

/-- The written form of a value. -/
def written : Value → Letters
  | null => "None"
  | bool b => if b then "True" else "False"
  | int n => toString n
  | float x => Decimal.floatText x
  | text s => Text.Quoted.text s
  | bytes octets => Text.ofChars (Text.Quoted.encodeOctets octets)
  | list items => "[" ++ joinWith ", " (writtenItems items) ++ "]"
  | tuple [item] => "(" ++ written item ++ ",)"
  | tuple items => "(" ++ joinWith ", " (writtenItems items) ++ ")"
  | mapping entries => "\x7b" ++ joinWith ", " (writtenEntries entries) ++ "\x7d"
  | moment m => writtenMoment m
  | date d => "datetime.date(" ++ numbers [d.year, d.month, d.day] ++ ")"
  | proxy _ _ w | object _ w => w

/-- The written forms of several values. -/
def writtenItems : List Value → List Letters
  | [] => []
  | item :: rest => written item :: writtenItems rest

/-- The written forms of the entries of a mapping. -/
def writtenEntries : List (Value × Value) → List Letters
  | [] => []
  | (key, value) :: rest => (written key ++ ": " ++ written value) :: writtenEntries rest

end

/-- The text of a value. -/
def shown : Value → Letters
  | text s => s
  | moment m => m.text
  | date d => d.text
  | proxy _ s _ | object s _ => s
  | v => v.written

/-- Whether the text of a value has an encoding. -/
def isEncodable (v : Value) : Bool :=
  (Text.plain? v.shown).isSome

/-- The name of the sort of a value. -/
def sortName : Value → String
  | null => "NoneType"
  | bool _ => "bool"
  | int _ => "int"
  | float _ => "float"
  | text _ => "str"
  | bytes _ => "bytes"
  | list _ => "list"
  | tuple _ => "tuple"
  | mapping _ => "dict"
  | moment _ => "datetime"
  | date _ => "date"
  | proxy _ _ _ => "mappingproxy"
  | object _ _ => "Opaque"

/-- The name of the sort of a value in full. -/
def fullSortName : Value → String
  | moment _ => "datetime.datetime"
  | date _ => "datetime.date"
  | v => v.sortName

/-- Whether a value counts as something: it is neither null, false, zero nor empty. -/
def isTruthy : Value → Bool
  | null => false
  | bool b => b
  | int n => n != 0
  | float x => x != 0.0
  | text s => !s.isEmpty
  | bytes octets => !octets.isEmpty
  | list items | tuple items => !items.isEmpty
  | mapping entries | proxy entries _ _ => !entries.isEmpty
  | moment _ | date _ | object _ _ => true

/-- Whether two moments are the same instant; a moment without an offset is never the same as one with an offset. -/
def sameMoment (m n : Moment) : Bool :=
  match m.offset, n.offset with
  | none, none => m.clock == n.clock
  | some o, some p => (m.clock : Int) - o == (n.clock : Int) - p
  | _, _ => false

mutual

/-- Whether two values are equal. Truth values count as the numbers 0 and 1, numbers are compared by their value, and
the order of a mapping does not matter. -/
def same : Value → Value → Bool
  | null, null => true
  | bool a, bool b => a == b
  | bool a, int n | int n, bool a => n == a.toInt
  | bool a, float x | float x, bool a => Decimal.compareInt a.toInt x == some .eq
  | int a, int b => a == b
  | int n, float x | float x, int n => Decimal.compareInt n x == some .eq
  | float x, float y => x == y
  | text s, text t => s == t
  | bytes a, bytes b => a == b
  | list a, list b | tuple a, tuple b => sameItems a b
  | mapping a, mapping b | mapping a, proxy b _ _ | proxy a _ _, mapping b | proxy a _ _, proxy b _ _ =>
    a.length == b.length && sameEntries a b
  | moment m, moment n => sameMoment m n
  | date d, date e => d == e
  | object s w, object t v => s == t && w == v
  | _, _ => false

/-- Whether two lists of values are equal, item by item. -/
def sameItems : List Value → List Value → Bool
  | [], [] => true
  | a :: as, b :: bs => same a b && sameItems as bs
  | _, _ => false

/-- Whether each of the entries is found, with an equal value, among the others. -/
def sameEntries : List (Value × Value) → List (Value × Value) → Bool
  | [], _ => true
  | (key, value) :: rest, others =>
    (others.find? fun other => same key other.1).any (fun other => same value other.2) && sameEntries rest others

end

instance : BEq Value := ⟨same⟩

/-- What a mapping holds. -/
def entries? : Value → Option (List (Value × Value))
  | mapping entries | proxy entries _ _ => some entries
  | _ => none

/-- The value of a text key of a mapping. -/
def get? (key : Letters) (v : Value) : Option Value :=
  v.entries?.bind fun entries => Fields.get? (text key) entries

end Value

end HttpRouter
