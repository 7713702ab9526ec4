import HttpRouter.Text.Quoted
import HttpRouter.Text.Utf8

/-!
# Faults

A fault is anything that goes wrong and is not an answer to the client: a mistake in a route template or a link, a value
of the wrong sort, or whatever the code of a resource raises. It has a kind and a text. Faults that the library or the
application raises on purpose are *declared*; only their text is part of an answer. One that nobody raises on purpose is
that of a text which has no encoding.
-/

namespace HttpRouter

/-- The kinds of fault. -/
inductive FaultKind where
  | runtime
  | value
  | type
  | lookup
  | arithmetic
  | overflow
  | attribute
  | key
  | system
  | recursion
  | invalidTemplate
  | link
  | json
  | decoding
  | encoding
  | undefined
  | missingModule
deriving DecidableEq, Repr

/-- The name a kind of fault has in logs. -/
def FaultKind.name : FaultKind → String
  | .runtime => "RuntimeError"
  | .value => "ValueError"
  | .type => "TypeError"
  | .lookup => "LookupError"
  | .arithmetic => "ArithmeticError"
  | .overflow => "OverflowError"
  | .attribute => "AttributeError"
  | .key => "KeyError"
  | .system => "OSError"
  | .recursion => "RecursionError"
  | .invalidTemplate => "InvalidTemplate"
  | .link => "LinkError"
  | .json => "JSONDecodeError"
  | .decoding => "UnicodeDecodeError"
  | .encoding => "UnicodeEncodeError"
  | .undefined => "UndefinedError"
  | .missingModule => "ModuleNotFoundError"

/-- Whether a fault of this kind means that a value was not acceptable. -/
def FaultKind.isValue : FaultKind → Bool
  | .value | .invalidTemplate | .link | .json | .decoding | .encoding => true
  | _ => false

/-- A fault: its kind, its text, and whether it was raised on purpose. -/
structure Fault where
  kind : FaultKind
  text : Letters
  declared : Bool
deriving DecidableEq, Repr

namespace Fault

/-- A fault raised on purpose. -/
def declare (kind : FaultKind) (text : Letters) : Fault :=
  ⟨kind, text, true⟩

/-- A fault that nobody raised on purpose. -/
def incidental (kind : FaultKind) (text : Letters) : Fault :=
  ⟨kind, text, false⟩

/-- The fault as it is written in a message. -/
def written (f : Fault) : String :=
  f.kind.name ++ "(" ++ Text.Quoted.text f.text ++ ")"

/-- The fault of a text that has no encoding: it tells where the letters that are no characters begin. -/
def unencodable (s : Letters) : Fault :=
  let isChar := fun l : Letter => l.char?.isSome
  let first := (s.takeWhile isChar).length
  let run := (s.dropWhile isChar).takeWhile (!isChar ·)
  let place := match run with
    | [l] => "character '\\u" ++ String.ofList (Text.Quoted.hex 4 l.toNat) ++ "' in position " ++ toString first
    | run => "characters in position " ++ toString first ++ "-" ++ toString (first + run.length - 1)
  incidental .encoding ("'utf-8' codec can't encode " ++ place ++ ": surrogates not allowed")

end Fault

/-- The octets of a text, if it has an encoding. -/
def Text.encoded (s : Letters) : Except Fault (List UInt8) :=
  match plain? s with
  | some t => .ok (Utf8.encode t)
  | none => .error (.unencodable s)

namespace Text

/-- **A text has an encoding exactly if it is one of characters.** -/
theorem encoded_eq_ok_iff {s : Letters} {octets : List UInt8} :
    encoded s = .ok octets ↔ ∃ t, s = ofChars t ∧ Utf8.encode t = octets := by
  rw [encoded]
  cases h : plain? s with
  | none =>
    refine ⟨nofun, ?_⟩
    rintro ⟨t, rfl, -⟩
    rw [plain?_ofChars] at h
    cases h
  | some t =>
    obtain rfl := plain?_eq_some_iff.mp h
    constructor
    · intro hoctets
      exact ⟨t, rfl, Except.ok.inj hoctets⟩
    · rintro ⟨u, hu, rfl⟩
      rw [ofChars_injective hu]

theorem encoded_eq_error_iff {s : Letters} {f : Fault} :
    encoded s = .error f ↔ plain? s = none ∧ f = .unencodable s := by
  rw [encoded]
  cases plain? s with
  | none => exact ⟨fun h => ⟨rfl, (Except.error.inj h).symm⟩, fun h => congrArg Except.error h.2.symm⟩
  | some t => exact ⟨nofun, nofun⟩

end Text

end HttpRouter
