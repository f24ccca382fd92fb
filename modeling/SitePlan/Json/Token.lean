import SitePlan.Text.Digit

/-!
# JSON tokens

A JSON text is a sequence of tokens with white space between them. Text between quotes
may name characters by number, and characters outside the first 65536 by a pair of
numbers; half a pair is no character.
-/

namespace SitePlan.Json

/-- A token of a JSON text. -/
inductive Token
  | openArray
  | closeArray
  | openObject
  | closeObject
  | colon
  | comma
  | null
  | bool (value : Bool)
  | natural (value : Nat)
  | otherNumber (written : String)
  /-- Text, if it is made of characters. -/
  | text (value : Option String)
  deriving DecidableEq

/-- White space between tokens. -/
def isSpace (c : Char) : Bool := c = ' ' || c = '\n' || c = '\t' || c = '\r'

/-- The character that a backslash and a letter stand for. -/
def escape? : Char → Option Char
  | '"' => some '"'
  | '\\' => some '\\'
  | '/' => some '/'
  | 'b' => some '\x08'
  | 'f' => some '\x0c'
  | 'n' => some '\n'
  | 'r' => some '\r'
  | 't' => some '\t'
  | _ => none

/-- The code units of a text after its opening quote, and what follows the closing quote.
Control characters must be escaped. -/
def units? : List Char → Option (List Nat × List Char)
  | '"' :: rest => some ([], rest)
  | '\\' :: 'u' :: a :: b :: c :: d :: rest => do
    let unit ← Text.readBase? 16 [a, b, c, d]
    let (units, after) ← units? rest
    return (unit :: units, after)
  | '\\' :: e :: rest => do
    let c ← escape? e
    let (units, after) ← units? rest
    return (c.toNat :: units, after)
  | c :: rest =>
    if c.toNat < 0x20 || c = '\\' then none
    else do
      let (units, after) ← units? rest
      return (c.toNat :: units, after)
  | [] => none

/-- The characters of a sequence of code units; a pair of surrogates is one character. -/
def ofUnits? : List Nat → Option (List Char)
  | [] => some []
  | u :: rest =>
    if 0xD800 ≤ u && u < 0xE000 then
      match rest with
      | v :: rest' =>
        if u < 0xDC00 && 0xDC00 ≤ v && v < 0xE000 then
          (ofUnits? rest').map
            (Char.ofNat (0x10000 + (u - 0xD800) * 0x400 + (v - 0xDC00)) :: ·)
        else none
      | [] => none
    else (ofUnits? rest).map (Char.ofNat u :: ·)

/-- A character of a number or of one of the three words. -/
def isWordChar (c : Char) : Bool :=
  c.isAlphanum || c = '-' || c = '+' || c = '.'

/-- The characters after an exponent's mark: an optional sign, then digits. -/
def isExponent : List Char → Bool
  | '+' :: cs | '-' :: cs => (Text.readNat? cs).isSome
  | cs => (Text.readNat? cs).isSome

/-- The characters after a number's integral digits: a fraction, an exponent, both or
nothing. -/
def isNumberTail (cs : List Char) : Bool :=
  let exponent : List Char → Bool
    | [] => true
    | c :: rest => (c = 'e' || c = 'E') && isExponent rest
  match cs with
  | '.' :: rest => !(rest.takeWhile Char.isDigit).isEmpty && exponent (rest.dropWhile Char.isDigit)
  | _ => exponent cs

/-- The token that a number is: digits without a zero in front, and then perhaps more. -/
def number? (cs : List Char) : Option Token :=
  let unsigned := match cs with
    | '-' :: rest => rest
    | _ => cs
  let digits := unsigned.takeWhile Char.isDigit
  let tail := unsigned.dropWhile Char.isDigit
  if digits.isEmpty || (digits.head? = some '0' && digits.length ≠ 1) then none
  else if digits.length = cs.length then (Text.readNat? digits).map .natural
  else if isNumberTail tail then some (.otherNumber (String.ofList cs))
  else none

/-- The token that a word is. -/
def word? (cs : List Char) : Option Token :=
  if cs = ['n', 'u', 'l', 'l'] then some .null
  else if cs = ['t', 'r', 'u', 'e'] then some (.bool true)
  else if cs = ['f', 'a', 'l', 's', 'e'] then some (.bool false)
  else number? cs

/-- The token that a single character is. -/
def punctuation? : Char → Option Token
  | '[' => some .openArray
  | ']' => some .closeArray
  | '\x7b' => some .openObject
  | '\x7d' => some .closeObject
  | ':' => some .colon
  | ',' => some .comma
  | _ => none

/-- What follows a text's closing quote is shorter than the text. -/
theorem length_lt_of_units? {cs : List Char} {units : List Nat} {after : List Char}
    (h : units? cs = some (units, after)) : after.length < cs.length := by
  fun_induction units? cs generalizing units after with
  | case1 rest =>
    simp only [Option.some.injEq, Prod.mk.injEq] at h
    simp [← h.2]
  | case2 a b c d rest ih =>
    simp only [Option.bind_eq_bind, Option.bind_eq_some_iff, Option.pure_def,
      Option.some.injEq, Prod.mk.injEq, Prod.exists] at h
    obtain ⟨_, _, us, after', hrest, _, rfl⟩ := h
    have := ih hrest
    simp only [List.length_cons]
    omega
  | case3 e rest _ ih =>
    simp only [Option.bind_eq_bind, Option.bind_eq_some_iff, Option.pure_def,
      Option.some.injEq, Prod.mk.injEq, Prod.exists] at h
    obtain ⟨_, _, us, after', hrest, _, rfl⟩ := h
    have := ih hrest
    simp only [List.length_cons]
    omega
  | case4 => cases h
  | case5 c rest _ _ _ _ ih =>
    simp only [Option.bind_eq_bind, Option.bind_eq_some_iff, Option.pure_def,
      Option.some.injEq, Prod.mk.injEq, Prod.exists] at h
    obtain ⟨us, after', hrest, _, rfl⟩ := h
    have := ih hrest
    simp only [List.length_cons]
    omega
  | case6 => cases h

/-- The tokens of a JSON text. -/
def tokens? (cs : List Char) : Option (List Token) :=
  match cs with
  | [] => some []
  | c :: rest =>
    if isSpace c then tokens? rest
    else if c = '"' then
      match h : units? rest with
      | none => none
      | some (units, after) =>
        have : after.length < rest.length := length_lt_of_units? h
        (tokens? after).map (.text ((ofUnits? units).map String.ofList) :: ·)
    else
      match punctuation? c with
      | some token => (tokens? rest).map (token :: ·)
      | none =>
        if isWordChar c then do
          let token ← word? (c :: rest.takeWhile isWordChar)
          have : (rest.dropWhile isWordChar).length ≤ rest.length :=
            (List.dropWhile_suffix isWordChar).length_le
          let tokens ← tokens? (rest.dropWhile isWordChar)
          return token :: tokens
        else none
termination_by cs.length

end SitePlan.Json
