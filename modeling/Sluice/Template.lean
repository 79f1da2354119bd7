import Sluice.Text.Search

/-!
# Templates

A template is a stretch `{{ path }}` of a text. Two readers look for templates: the lexer, which
keeps one that closes on its own line together as a part of a word, and the resolver, which
replaces every one that closes anywhere. `lead?` is the lexer's question, `pieces` the resolver's
view of a whole text.
-/

namespace Sluice.Template

def opening : List Char := ['{', '{']

def closing : List Char := ['}', '}']

/-- A text starting with an opening, cut behind the first closing on the same line. -/
def takeClosed? : List Char → Option (List Char × List Char)
  | '}' :: '}' :: rest => some (closing, rest)
  | '\n' :: _ => none
  | c :: rest => (takeClosed? rest).map fun (body, after) => (c :: body, after)
  | [] => none

/-- The template at the start of a text, if one starts there and closes on its line. -/
def lead? : List Char → Option (List Char × List Char)
  | '{' :: '{' :: rest => (takeClosed? rest).map fun (body, after) => ('{' :: '{' :: body, after)
  | _ => none

/-- A stretch of a text: literal characters, or the expression of a template. -/
inductive Piece where
  | literal (text : List Char)
  | expression (text : List Char)
deriving DecidableEq

/-- The characters of a piece as they stand in the text. -/
def Piece.chars : Piece → List Char
  | .literal text => text
  | .expression text => opening ++ text ++ closing

theorem cut_opening_lt {s lead rest : List Char} (h : Text.cut? opening s = some (lead, rest)) :
    rest.length < s.length := by
  have := Text.cut?_after_length_le h
  simp [opening] at this
  omega

/-- The pieces of a text in order: literal text up to an opening, then the expression up to the
next closing. An opening that never closes is literal, and so is all that follows it. -/
def pieces (s : List Char) : List Piece :=
  match h : Text.cut? opening s with
  | none => [.literal s]
  | some (lead, rest) =>
    have := cut_opening_lt h
    match h' : Text.cut? closing rest with
    | none => [.literal s]
    | some (expr, after) =>
      have := Text.cut?_after_length_le h'
      .literal lead :: .expression expr :: pieces after
termination_by s.length

/-! ## Nothing is lost -/

theorem takeClosed?_eq_append {s body after : List Char}
    (h : takeClosed? s = some (body, after)) : s = body ++ after := by
  fun_induction takeClosed? s generalizing body with
  | case1 rest =>
    obtain ⟨rfl, rfl⟩ : closing = body ∧ rest = after := by simpa using h
    rfl
  | case2 => simp at h
  | case3 c rest _ _ ih =>
    obtain ⟨⟨b, a⟩, hb, he⟩ := Option.map_eq_some_iff.1 h
    obtain ⟨rfl, rfl⟩ : c :: b = body ∧ a = after := by simpa using he
    simp [ih hb]
  | case4 => simp at h

theorem lead?_eq_append {s template after : List Char}
    (h : lead? s = some (template, after)) : s = template ++ after := by
  unfold lead? at h
  split at h
  · obtain ⟨⟨b, a⟩, hb, he⟩ := Option.map_eq_some_iff.1 h
    obtain ⟨rfl, rfl⟩ : '{' :: '{' :: b = template ∧ a = after := by simpa using he
    simp [takeClosed?_eq_append hb]
  · simp at h

theorem lead?_ne_nil {s template after : List Char}
    (h : lead? s = some (template, after)) : template ≠ [] := by
  unfold lead? at h
  split at h
  · obtain ⟨⟨b, a⟩, _, he⟩ := Option.map_eq_some_iff.1 h
    obtain ⟨rfl, rfl⟩ : '{' :: '{' :: b = template ∧ a = after := by simpa using he
    simp
  · simp at h

theorem lead?_length_lt {s template after : List Char}
    (h : lead? s = some (template, after)) : after.length < s.length := by
  unfold lead? at h
  split at h
  · obtain ⟨⟨b, a⟩, hb, he⟩ := Option.map_eq_some_iff.1 h
    obtain ⟨rfl, rfl⟩ : '{' :: '{' :: b = template ∧ a = after := by simpa using he
    simp [takeClosed?_eq_append hb]
    omega
  · simp at h

theorem flatMap_chars_pieces (s : List Char) : (pieces s).flatMap Piece.chars = s := by
  fun_induction pieces s with
  | case1 => simp [Piece.chars]
  | case2 => simp [Piece.chars]
  | case3 s lead rest h _ expr after h' _ ih =>
    simp [Piece.chars, ih, Text.cut?_eq_append h, Text.cut?_eq_append h']

end Sluice.Template
