import Sluice.Proofs.Results
import Sluice.Proofs.Text.Pieces
import Sluice.Proofs.Token.Templates
import Sluice.Resolve

/-!
# Resolving as one substitution

A text is cut into literal stretches and templates in exactly one way (`Template.cut_iff`), and the
expressions of a value's templates have an order, that of its texts. To resolve a value is to put
the values of all these expressions into their places at once: the value has the shape, the keys and
the order of the one before, and what has been put into place is not looked at again. It fails
exactly if one of the expressions leads to no value, with the failure of the first such one
(`Value.resolve_substitutes`).

* `Value.fill`, `Value.substitution_fill` : the substitution, and what it does to each value;
* `Value.resolve_eq` : to resolve is to fill in, unless an expression fails first.
-/

namespace Sluice

namespace Template

/-! ## The pieces of a text -/

/-- How a text is cut: each template is the first that opens, its expression goes on to the first
closing, and where no template opens and closes any more all is literal. -/
inductive Cut : List Char → List Piece → Prop where
  | rest {text : List Char}
      (h : ∀ lead expr after, text ≠ lead ++ opening ++ expr ++ closing ++ after) :
      Cut text [.literal text]
  | template {lead expr after : List Char} {parts : List Piece}
      (hlead : ¬ opening <:+: lead ++ ['{']) (hexpr : ¬ closing <:+: expr ++ ['}'])
      (hafter : Cut after parts) :
      Cut (lead ++ opening ++ expr ++ closing ++ after) (.literal lead :: .expression expr :: parts)

theorem cut_pieces (text : List Char) : Cut text (pieces text) := by
  fun_induction pieces text with
  | case1 text hopening =>
      refine .rest fun lead expr after heq => Text.cut?_eq_none_iff.1 hopening ?_
      exact ⟨lead, expr ++ closing ++ after, by simp [heq]⟩
  | case2 text lead rest hopening _ hclosing =>
      obtain ⟨htext, hlead⟩ := (Text.cut?_eq_some_iff (by decide)).1 hopening
      refine .rest fun before expr after heq => Text.cut?_eq_none_iff.1 hclosing ?_
      -- no opening stands in front of the first one, so that the closing stands behind it
      have hle : lead.length ≤ before.length := by
        refine Nat.le_of_not_lt fun hlt => hlead ?_
        have hbefore : before ++ opening <+: text := ⟨expr ++ closing ++ after, by simp [heq]⟩
        have hfirst : lead ++ ['{'] <+: text := ⟨'{' :: rest, by simp [htext, opening]⟩
        refine (List.suffix_append before opening).isInfix.trans ?_
        refine (List.prefix_of_prefix_length_le hbefore hfirst ?_).isInfix
        simp [opening]
        omega
      have hbehind : closing ++ after <:+ text := ⟨before ++ opening ++ expr, by simp [heq]⟩
      have hrest : rest <:+ text := ⟨lead ++ opening, htext.symm⟩
      refine (List.prefix_append closing after).isInfix.trans ?_
      refine (List.suffix_of_suffix_length_le hbehind hrest ?_).isInfix
      have hlengths := congrArg List.length (htext.symm.trans heq)
      simp at hlengths ⊢
      omega
  | case3 text lead rest hopening _ expr after hclosing _ ih =>
      obtain ⟨htext, hlead⟩ := (Text.cut?_eq_some_iff (by decide)).1 hopening
      obtain ⟨hrest, hexpr⟩ := (Text.cut?_eq_some_iff (by decide)).1 hclosing
      subst htext hrest
      simpa using Cut.template hlead hexpr ih

theorem Cut.eq_pieces {text : List Char} {parts : List Piece} (h : Cut text parts) :
    parts = pieces text := by
  induction h with
  | @rest text h =>
      cases hopening : Text.cut? opening text with
      | none => exact (pieces_of_no_opening hopening).symm
      | some cut =>
          obtain ⟨lead, rest⟩ := cut
          cases hclosing : Text.cut? closing rest with
          | none => exact (pieces_of_unclosed hopening hclosing).symm
          | some cut =>
              obtain ⟨expr, after⟩ := cut
              refine absurd ?_ (h lead expr after)
              rw [Text.cut?_eq_append hopening, Text.cut?_eq_append hclosing]
              simp
  | @template lead expr after parts hlead hexpr _ ih =>
      have hopening : Text.cut? opening (lead ++ opening ++ expr ++ closing ++ after) =
          some (lead, expr ++ closing ++ after) :=
        (Text.cut?_eq_some_iff (by decide)).2 ⟨by simp, hlead⟩
      have hclosing : Text.cut? closing (expr ++ closing ++ after) = some (expr, after) :=
        (Text.cut?_eq_some_iff (by decide)).2 ⟨rfl, hexpr⟩
      rw [pieces_of_closed hopening hclosing, ih]

/-- A text is cut in exactly one way. -/
theorem cut_iff {text : List Char} {parts : List Piece} : Cut text parts ↔ parts = pieces text := by
  constructor
  · exact Cut.eq_pieces
  · rintro rfl
    exact cut_pieces text

/-! ## Filling in a text -/

def Piece.expression? : Piece → Option String
  | literal _ => none
  | expression text => some (String.ofList text)

/-- A piece with the value of its expression written out. -/
def Piece.write (value : String → Value) : Piece → List Char
  | literal text => text
  | expression text => (value (String.ofList text)).toText.toList

/-- The expressions of a text's templates, in order. -/
def expressions (text : String) : List String :=
  (pieces text.toList).filterMap Piece.expression?

/-- A text with values put into the places of its expressions. -/
def fill (value : String → Value) (text : String) : Value :=
  match sole? (pieces text.toList) with
  | some expr => value (String.ofList expr)
  | none => .str (String.ofList ((pieces text.toList).flatMap (Piece.write value)))

/-- The pieces are those of a single template with only blanks around it. -/
def IsSole (parts : List Piece) (expr : List Char) : Prop :=
  ∃ lead trail, parts = [.literal lead, .expression expr, .literal trail] ∧
    ∀ c ∈ lead ++ trail, Text.isBlank c = true

theorem sole?_eq_some_iff {parts : List Piece} {expr : List Char} :
    sole? parts = some expr ↔ IsSole parts expr := by
  constructor
  · intro h
    unfold sole? at h
    split at h
    · next lead expr' trail =>
      split at h
      · next hblank =>
        cases h
        exact ⟨lead, trail, rfl, List.all_eq_true.1 hblank⟩
      · cases h
    · cases h
  · rintro ⟨lead, trail, rfl, hblank⟩
    rw [sole?, if_pos (List.all_eq_true.2 hblank)]

end Template

/-! ## Filling in a value -/

namespace Value

mutual

/-- The expressions of the templates in a value's texts, in order. -/
def expressions : Value → List String
  | .str text => Template.expressions text
  | .seq items => itemExpressions items
  | .map fields => fieldExpressions fields
  | _ => []

def itemExpressions : List Value → List String
  | [] => []
  | x :: xs => x.expressions ++ itemExpressions xs

def fieldExpressions : List (String × Value) → List String
  | [] => []
  | (_, x) :: fs => x.expressions ++ fieldExpressions fs

end

mutual

/-- A value with values put into the places of the expressions in its texts. -/
def fill (value : String → Value) : Value → Value
  | .str text => Template.fill value text
  | .seq items => .seq (fillItems value items)
  | .map fields => .map (fillFields value fields)
  | v => v

def fillItems (value : String → Value) : List Value → List Value
  | [] => []
  | x :: xs => x.fill value :: fillItems value xs

def fillFields (value : String → Value) : List (String × Value) → List (String × Value)
  | [] => []
  | (k, x) :: fs => (k, x.fill value) :: fillFields value fs

end

theorem fillItems_eq_map (value : String → Value) (items : List Value) :
    fillItems value items = items.map (fill value) := by
  induction items with
  | nil => rfl
  | cons x xs ih => rw [fillItems, ih, List.map_cons]

theorem fillFields_eq_map (value : String → Value) (fields : List (String × Value)) :
    fillFields value fields = fields.map fun field => (field.1, field.2.fill value) := by
  induction fields with
  | nil => rfl
  | cons field fs ih => rw [fillFields, ih, List.map_cons]

/-- A function puts values into the places of the expressions in all texts: a text without a
template stays as it is, one that is a single template with only blanks around it becomes the value,
and in any other the values are written out between the literal pieces. All else keeps its shape,
its keys and its order. -/
structure Substitution (value : String → Value) (f : Value → Value) : Prop where
  plain : ∀ text : String, (∀ lead expr after,
      text.toList ≠ lead ++ Template.opening ++ expr ++ Template.closing ++ after) →
        f (.str text) = .str text
  sole : ∀ text parts expr, Template.Cut text.toList parts → Template.IsSole parts expr →
    f (.str text) = value (String.ofList expr)
  mixed : ∀ text parts, Template.Cut text.toList parts → (∀ expr, ¬ Template.IsSole parts expr) →
    f (.str text) = .str (String.ofList (parts.flatMap (Template.Piece.write value)))
  items : ∀ items, f (.seq items) = .seq (items.map f)
  fields : ∀ fields, f (.map fields) = .map (fields.map fun field => (field.1, f field.2))
  null : f .null = .null
  bool : ∀ b, f (.bool b) = .bool b
  num : ∀ n, f (.num n) = .num n

theorem substitution_fill (value : String → Value) : Substitution value (fill value) where
  plain text h := by
    have hpieces := (Template.Cut.rest h).eq_pieces
    rw [fill, Template.fill, ← hpieces]
    simp [Template.sole?, Template.Piece.write]
  sole text parts expr hcut hsole := by
    rw [fill, Template.fill, ← hcut.eq_pieces, Template.sole?_eq_some_iff.2 hsole]
  mixed text parts hcut hmixed := by
    have hnone : Template.sole? parts = none :=
      Option.eq_none_iff_forall_ne_some.2 fun expr h => hmixed expr (Template.sole?_eq_some_iff.1 h)
    rw [fill, Template.fill, ← hcut.eq_pieces, hnone]
  items items := by rw [fill, fillItems_eq_map]
  fields fields := by rw [fill, fillFields_eq_map]
  null := rfl
  bool _ := rfl
  num _ := rfl

end Value

/-! ## Resolving -/

namespace Session

def fault? (s : Session) (expression : String) : Option Failure :=
  match s.lookup expression with
  | .error failure => some failure
  | .ok _ => none

theorem fault?_eq_some_iff {s : Session} {e : String} {failure : Failure} :
    s.fault? e = some failure ↔ s.lookup e = .error failure := by
  unfold fault?
  cases s.lookup e <;> simp

theorem fault?_eq_none_iff {s : Session} {e : String} :
    s.fault? e = none ↔ ∃ v, s.lookup e = .ok v := by
  unfold fault?
  cases s.lookup e <;> simp

/-- The first failure among lookups one after the other. -/
def failure? (s : Session) (expressions : List String) : Option Failure :=
  expressions.findSome? s.fault?

/-- Wherever a lookup succeeds, its result is the value for the expression. -/
def Agrees (s : Session) (value : String → Value) (expressions : List String) : Prop :=
  ∀ e ∈ expressions, ∀ v, s.lookup e = .ok v → value e = v

variable {s : Session} {value : String → Value}

theorem failure?_append (es es' : List String) :
    s.failure? (es ++ es') = (s.failure? es).or (s.failure? es') :=
  List.findSome?_append

theorem agrees_append {es es' : List String} :
    s.Agrees value (es ++ es') ↔ s.Agrees value es ∧ s.Agrees value es' :=
  List.forall_mem_append

theorem failure?_eq_some_iff {es : List String} {failure : Failure} :
    s.failure? es = some failure ↔ ∃ before e after, es = before ++ e :: after ∧
      (∀ x ∈ before, ∃ v, s.lookup x = .ok v) ∧ s.lookup e = .error failure := by
  refine List.findSome?_eq_some_iff.trans ?_
  constructor
  · rintro ⟨before, e, after, rfl, he, hbefore⟩
    exact ⟨before, e, after, rfl, fun x hx => fault?_eq_none_iff.1 (hbefore x hx),
      fault?_eq_some_iff.1 he⟩
  · rintro ⟨before, e, after, rfl, hbefore, he⟩
    exact ⟨before, e, after, rfl, fault?_eq_some_iff.2 he,
      fun x hx => fault?_eq_none_iff.2 (hbefore x hx)⟩

/-- A result, barring a failure. -/
def barring {α : Type} (failure? : Option Failure) (a : α) : Except Failure α :=
  match failure? with
  | some failure => .error failure
  | none => .ok a

theorem lookup_eq {e : String} (h : s.Agrees value [e]) :
    s.lookup e = barring (s.failure? [e]) (value e) := by
  rw [failure?, List.findSome?_singleton, fault?]
  cases he : s.lookup e with
  | error failure => rfl
  | ok v => rw [barring, h e List.mem_cons_self v he]

end Session

open Session (barring)

namespace Template

variable {s : Session} {value : String → Value}

theorem writeOut_eq {parts : List Piece}
    (h : s.Agrees value (parts.filterMap Piece.expression?)) :
    writeOut s parts = barring (s.failure? (parts.filterMap Piece.expression?))
      (parts.flatMap (Piece.write value)) := by
  induction parts with
  | nil => rfl
  | cons part parts ih =>
      cases part with
      | literal text =>
          have hparts : s.Agrees value (parts.filterMap Piece.expression?) := h
          change (writeOut s parts).map (text ++ ·) =
            barring (s.failure? (parts.filterMap Piece.expression?)) _
          rw [ih hparts]
          cases s.failure? (parts.filterMap Piece.expression?) <;> rfl
      | expression expr =>
          have hcons : (Piece.expression expr :: parts).filterMap Piece.expression? =
              [String.ofList expr] ++ parts.filterMap Piece.expression? := rfl
          rw [hcons] at h ⊢
          obtain ⟨hexpr, hparts⟩ := Session.agrees_append.1 h
          rw [writeOut, Session.lookup_eq hexpr, ih hparts, Session.failure?_append]
          cases s.failure? [String.ofList expr] with
          | some failure => rfl
          | none => cases s.failure? (parts.filterMap Piece.expression?) <;> rfl

theorem resolve_eq {text : String} (h : s.Agrees value (expressions text)) :
    resolve s text = barring (s.failure? (expressions text)) (fill value text) := by
  rw [resolve, fill]
  cases hsole : sole? (pieces text.toList) with
  | none =>
      dsimp only
      rw [writeOut_eq h]
      change _ = barring (s.failure? ((pieces text.toList).filterMap Piece.expression?)) _
      cases s.failure? ((pieces text.toList).filterMap Piece.expression?) <;> rfl
  | some expr =>
      obtain ⟨lead, trail, hparts, -⟩ := sole?_eq_some_iff.1 hsole
      have hexpressions : expressions text = [String.ofList expr] := by
        rw [expressions, hparts]
        rfl
      rw [hexpressions] at h ⊢
      exact Session.lookup_eq h

end Template

namespace Value

variable {s : Session} {value : String → Value}

mutual

theorem resolve_eq : ∀ {v : Value}, s.Agrees value v.expressions →
    v.resolve s = barring (s.failure? v.expressions) (v.fill value)
  | .str text, h => Template.resolve_eq h
  | .seq items, h => by
    rw [resolve, resolveItems_eq h, expressions, fill]
    cases s.failure? (itemExpressions items) <;> rfl
  | .map fields, h => by
    rw [resolve, resolveFields_eq h, expressions, fill]
    cases s.failure? (fieldExpressions fields) <;> rfl
  | .null, _ => rfl
  | .bool _, _ => rfl
  | .num _, _ => rfl

theorem resolveItems_eq : ∀ {items : List Value}, s.Agrees value (itemExpressions items) →
    resolveItems s items = barring (s.failure? (itemExpressions items)) (fillItems value items)
  | [], _ => rfl
  | x :: xs, h => by
    obtain ⟨hx, hxs⟩ := Session.agrees_append.1 h
    rw [resolveItems, resolve_eq hx, itemExpressions, Session.failure?_append]
    cases s.failure? x.expressions with
    | some failure => rfl
    | none =>
        rw [barring, resolveItems_eq hxs]
        cases s.failure? (itemExpressions xs) <;> rfl

theorem resolveFields_eq : ∀ {fields : List (String × Value)},
    s.Agrees value (fieldExpressions fields) →
      resolveFields s fields =
        barring (s.failure? (fieldExpressions fields)) (fillFields value fields)
  | [], _ => rfl
  | (k, x) :: fs, h => by
    obtain ⟨hx, hfs⟩ := Session.agrees_append.1 h
    rw [resolveFields, resolve_eq hx, fieldExpressions, Session.failure?_append]
    cases s.failure? x.expressions with
    | some failure => rfl
    | none =>
        rw [barring, resolveFields_eq hfs]
        cases s.failure? (fieldExpressions fs) <;> rfl

end

/-- To resolve a value is one substitution for the expressions of its templates. Each text is cut
into its pieces in exactly one way. If all expressions lead to values, these are put into their
places and not looked at again; and to resolve the value fails exactly if an expression leads to
none, with the failure of the first such one. -/
theorem resolve_substitutes (s : Session) :
    (∀ text parts, Template.Cut text parts ↔ parts = Template.pieces text) ∧
    (∀ value, Substitution value (fill value)) ∧
    ∀ v : Value,
      (∀ value, (∀ e ∈ v.expressions, s.lookup e = .ok (value e)) →
        v.resolve s = .ok (v.fill value)) ∧
      ∀ failure, v.resolve s = .error failure ↔
        ∃ before e after, v.expressions = before ++ e :: after ∧
          (∀ x ∈ before, ∃ w, s.lookup x = .ok w) ∧ s.lookup e = .error failure := by
  refine ⟨fun _ _ => Template.cut_iff, substitution_fill, fun v => ⟨fun value h => ?_, ?_⟩⟩
  · have hagrees : s.Agrees value v.expressions := fun e he w hw =>
      Except.ok.inj ((h e he).symm.trans hw)
    have hnone : s.failure? v.expressions = none := List.findSome?_eq_none_iff.2 fun e he =>
      Session.fault?_eq_none_iff.2 ⟨value e, h e he⟩
    rw [resolve_eq hagrees, hnone, barring]
  · intro failure
    -- any values will do for the expressions that lead to none
    have hagrees : s.Agrees (fun e => (s.lookup e).toOption.getD .null) v.expressions := by
      intro e _ w hw
      simp [hw, Except.toOption]
    rw [resolve_eq hagrees, ← Session.failure?_eq_some_iff]
    cases s.failure? v.expressions <;> simp [barring]

/-- A session in which the value of `x` looks like a template. -/
def nested : Session :=
  ⟨[("x", ⟨"x", .str "{{ y }}", "", ""⟩), ("y", ⟨"y", .bool true, "", ""⟩)], [], none⟩

/-- A value with a template alone, two templates in one text, and a key that looks like one. -/
def patterned : Value :=
  .map [("{{ y }}", .str " {{ x }}"), ("k", .seq [.str "{{y}}-{{ x }}\x7b\x7b"])]

theorem resolve_substitutes_nested :
    patterned.expressions = [" x ", "y", " x "] ∧
    patterned.resolve nested =
      .ok (.map [("{{ y }}", .str "{{ y }}"), ("k", .seq [.str "true-{{ y }}\x7b\x7b"])]) := by
  have hexpressions : patterned.expressions = [" x ", "y", " x "] := by decide +kernel
  refine ⟨hexpressions, ?_⟩
  have hfill : patterned.fill (fun e => if e = "y" then .bool true else .str "{{ y }}") =
      .map [("{{ y }}", .str "{{ y }}"), ("k", .seq [.str "true-{{ y }}\x7b\x7b"])] := by
    decide +kernel
  have hx : nested.lookup " x " = .ok (.str "{{ y }}") := eq_ok_of_toOption (by decide +kernel)
  have hy : nested.lookup "y" = .ok (.bool true) := eq_ok_of_toOption (by decide +kernel)
  have hlookup : ∀ e ∈ patterned.expressions,
      nested.lookup e = .ok (if e = "y" then .bool true else .str "{{ y }}") := by
    rw [hexpressions]
    simp [hx, hy]
  rw [← hfill]
  exact ((resolve_substitutes nested).2.2 patterned).1 _ hlookup

end Value

end Sluice
