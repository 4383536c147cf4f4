import DepartureRules.Json.Fault

/-!
# Strings in documents

The part of a document between two double quotes:

* `stringBody` reads it, escapes decoded, from behind the opening quote to behind the closing one;
* `skipString` passes over it and decodes nothing;
* `escaped` writes a character as it stands in a document.

An escaped number has four hexadecimal digits. A number in the range of the leading surrogates has to be
followed by one in the range of the trailing ones; the pair stands for one character.
-/

namespace DepartureRules.Json
set_option autoImplicit false

/-! ## Numbered escapes -/

/-- The value of a hexadecimal digit of either case. -/
def hexValue? (c : Char) : Option Nat :=
  let n := c.toNat
  if 0x30 ≤ n && n ≤ 0x39 then some (n - 0x30)
  else if 0x41 ≤ n && n ≤ 0x46 then some (n - 0x41 + 10)
  else if 0x61 ≤ n && n ≤ 0x66 then some (n - 0x61 + 10)
  else none

/-- The number of bytes that a text takes up in a document. -/
def byteCount : List Char → Nat
  | [] => 0
  | c :: rest => c.utf8Size + byteCount rest

/-- Reads four hexadecimal digits. With fewer than four bytes left the text has ended. -/
def hexFour (s : List Char) : Except Fault (Nat × List Char) :=
  match s with
  | a :: b :: c :: d :: rest =>
    match hexValue? a, hexValue? b, hexValue? c, hexValue? d with
    | some a, some b, some c, some d => .ok (((a * 16 + b) * 16 + c) * 16 + d, rest)
    | _, _, _, _ => .error .malformed
  | short => .error (if byteCount short < 4 then .ended else .malformed)

theorem hexFour_shorter {s rest : List Char} {n : Nat} (h : hexFour s = .ok (n, rest)) :
    rest.length < s.length := by
  unfold hexFour at h
  split at h
  · split at h
    · simp only [Except.ok.injEq, Prod.mk.injEq] at h
      simp [← h.2]
      omega
    · simp at h
  · simp at h

/-- The character of a pair of surrogates. -/
def pairedChar (lead trail : Nat) : Char :=
  Char.ofNat (0x10000 + (lead - 0xD800) * 0x400 + (trail - 0xDC00))

/-- Reads the rest of a numbered escape, from behind its `u`. -/
def numberedEscape (s : List Char) : Except Fault (Char × List Char) :=
  match hexFour s with
  | .error f => .error f
  | .ok (n, rest) =>
    if 0xDC00 ≤ n && n ≤ 0xDFFF then .error .malformed
    else if 0xD800 ≤ n && n ≤ 0xDBFF then
      match rest with
      | [] => .error .ended
      | [c] => .error (if c = '\\' then .ended else .malformed)
      | c :: d :: rest =>
        if c = '\\' ∧ d = 'u' then
          match hexFour rest with
          | .error f => .error f
          | .ok (trail, rest) =>
            if 0xDC00 ≤ trail && trail ≤ 0xDFFF then .ok (pairedChar n trail, rest)
            else .error .malformed
        else .error .malformed
    else .ok (Char.ofNat n, rest)

/-! ## Escapes -/

/-- The character that a one-letter escape stands for. -/
def plainEscape? (c : Char) : Option Char :=
  match c with
  | '"' => some '"'
  | '\\' => some '\\'
  | '/' => some '/'
  | 'b' => some '\x08'
  | 'f' => some '\x0c'
  | 'n' => some '\n'
  | 'r' => some '\r'
  | 't' => some '\t'
  | _ => none

/-- Reads an escape from behind its backslash. -/
def escape (s : List Char) : Except Fault (Char × List Char) :=
  match s with
  | [] => .error .ended
  | c :: rest =>
    if c = 'u' then numberedEscape rest
    else
      match plainEscape? c with
      | some d => .ok (d, rest)
      | none => .error .malformed

/-- Passes over an escape from behind its backslash; the digits of a numbered one may be any. -/
def skipEscape (s : List Char) : Except Fault (List Char) :=
  match s with
  | [] => .error .ended
  | c :: rest =>
    if c = 'u' then (hexFour rest).map (·.2)
    else if (plainEscape? c).isSome then .ok rest
    else .error .malformed

theorem numberedEscape_shorter {s rest : List Char} {c : Char}
    (h : numberedEscape s = .ok (c, rest)) : rest.length < s.length := by
  unfold numberedEscape at h
  split at h
  · simp at h
  · rename_i n after hfour
    have hafter := hexFour_shorter hfour
    split at h
    · simp at h
    split at h
    · split at h
      · simp at h
      · simp at h
      · rename_i a b after'
        split at h
        · split at h
          · simp at h
          · rename_i trail after'' hfour'
            have hafter' := hexFour_shorter hfour'
            split at h
            · obtain ⟨-, rfl⟩ := Prod.mk.inj (Except.ok.inj h)
              simp only [List.length_cons] at hafter
              omega
            · simp at h
        · simp at h
    · obtain ⟨-, rfl⟩ := Prod.mk.inj (Except.ok.inj h)
      exact hafter

theorem escape_shorter {s rest : List Char} {c : Char} (h : escape s = .ok (c, rest)) :
    rest.length < s.length := by
  unfold escape at h
  split at h
  · simp at h
  · split at h
    · have := numberedEscape_shorter h
      simp only [List.length_cons]
      omega
    · split at h
      · simp only [Except.ok.injEq, Prod.mk.injEq] at h
        simp [h.2]
      · simp at h

theorem skipEscape_shorter {s rest : List Char} (h : skipEscape s = .ok rest) :
    rest.length < s.length := by
  unfold skipEscape at h
  split at h
  · simp at h
  · rename_i c after
    split at h
    · match hfour : hexFour after with
      | .error f => simp [hfour, Except.map] at h
      | .ok (n, after') =>
        have := hexFour_shorter hfour
        simp only [hfour, Except.map, Except.ok.injEq] at h
        subst h
        simp only [List.length_cons]
        omega
    · split at h
      · simp only [Except.ok.injEq] at h
        simp [h]
      · simp at h

/-! ## Strings -/

/-- Reads a string from behind its opening quote. -/
def stringBody (s : List Char) : Except Fault (List Char × List Char) :=
  match s with
  | [] => .error .ended
  | c :: rest =>
    if c = '"' then .ok ([], rest)
    else if c = '\\' then
      match _h : escape rest with
      | .error f => .error f
      | .ok (d, after) =>
        match stringBody after with
        | .error f => .error f
        | .ok (body, after) => .ok (d :: body, after)
    else if c.toNat < 0x20 then .error .malformed
    else
      match stringBody rest with
      | .error f => .error f
      | .ok (body, after) => .ok (c :: body, after)
termination_by s.length
decreasing_by
  · have := escape_shorter _h
    simp only [List.length_cons]
    omega
  · simp

/-- Passes over a string from behind its opening quote. -/
def skipString (s : List Char) : Except Fault (List Char) :=
  match s with
  | [] => .error .ended
  | c :: rest =>
    if c = '"' then .ok rest
    else if c = '\\' then
      match _h : skipEscape rest with
      | .error f => .error f
      | .ok after => skipString after
    else if c.toNat < 0x20 then .error .malformed
    else skipString rest
termination_by s.length
decreasing_by
  · have := skipEscape_shorter _h
    simp only [List.length_cons]
    omega
  · simp

/-! ## Writing -/

/-- The lower-case hexadecimal digit of a number below sixteen. -/
def hexDigit (n : Nat) : Char :=
  Nat.digitChar (n % 16)

/-- A character as it is written between the quotes. -/
def escaped (c : Char) : List Char :=
  if c = '"' then ['\\', '"']
  else if c = '\\' then ['\\', '\\']
  else if c = '\x08' then ['\\', 'b']
  else if c = '\x0c' then ['\\', 'f']
  else if c = '\n' then ['\\', 'n']
  else if c = '\r' then ['\\', 'r']
  else if c = '\t' then ['\\', 't']
  else if c.toNat < 0x20 then ['\\', 'u', '0', '0', hexDigit (c.toNat / 16), hexDigit c.toNat]
  else [c]

/-- A string as it is written in a document, quotes included. -/
def quotedString (s : String) : List Char :=
  '"' :: s.toList.flatMap escaped ++ ['"']

end DepartureRules.Json
