import Billing.Json.Reader
import Billing.Proofs.Outcome

/-!
# Where values end

An array or an object ends at the bracket that closes it, which a scan finds that knows nothing but
brackets and strings (`afterClosing?`). A reader that succeeds has read as far as that, so a text of
which the scan finds the end only where the text ends is not readable if any of it is missing.

* `readsToEnd`: what is read ends where the scan ends.
* `exists_error_of_prefix`: a text that breaks off before its closing bracket is no value.
-/

namespace Billing.Json

/-- Where a scan stands: outside strings, inside one, or behind a backslash in one. -/
inductive Place where
  | outside
  | inside
  | escaped

/-- The rest of a text behind the bracket that closes the last of `depth` open ones. -/
def afterClosing? : Place → Nat → List Char → Option (List Char)
  | .outside, 0, s => some s
  | _, _, [] => none
  | .outside, depth + 1, c :: s =>
    if c = '"' then afterClosing? .inside (depth + 1) s
    else if c = '[' ∨ c = '{' then afterClosing? .outside (depth + 2) s
    else if c = ']' ∨ c = '}' then afterClosing? .outside depth s
    else afterClosing? .outside (depth + 1) s
  | .inside, depth, c :: s =>
    if c = '"' then afterClosing? .outside depth s
    else if c = '\\' then afterClosing? .escaped depth s
    else afterClosing? .inside depth s
  | .escaped, depth, _ :: s => afterClosing? .inside depth s

/-- What a scan finds in a text it finds in every longer one. -/
theorem afterClosing?_append {place : Place} {depth : Nat} {s r : List Char} (t : List Char)
    (h : afterClosing? place depth s = some r) :
    afterClosing? place depth (s ++ t) = some (r ++ t) := by
  fun_induction afterClosing? place depth s with grind [afterClosing?]

/-! ## Strings -/

theorem ne_of_hexNumber? {a b c d : Char} {n : Nat} (h : Text.hexNumber? [a, b, c, d] = some n) :
    ∀ x ∈ [a, b, c, d], x ≠ '"' ∧ x ≠ '\\' := by
  have hdigit {x : Char} {k : Nat} (h : Text.hexValue? x = some k) : x ≠ '"' ∧ x ≠ '\\' := by
    constructor <;>
    · rintro rfl
      simp [Text.hexValue?] at h
  simp only [Text.hexNumber?, List.foldlM_cons, List.foldlM_nil, Option.bind_eq_bind,
    Option.bind_eq_some_iff, Option.map_eq_some_iff] at h
  obtain ⟨_, ⟨_, ha, -⟩, _, ⟨_, hb, -⟩, _, ⟨_, hc, -⟩, _, ⟨_, hd, -⟩, -⟩ := h
  simpa using ⟨hdigit ha, hdigit hb, hdigit hc, hdigit hd⟩

theorem afterClosing?_escaped (depth : Nat) (c : Char) (s : List Char) :
    afterClosing? .inside depth ('\\' :: c :: s) = afterClosing? .inside depth s := by
  simp [afterClosing?]

theorem afterClosing?_char {depth : Nat} {c : Char} (h : c ≠ '"' ∧ c ≠ '\\') (s : List Char) :
    afterClosing? .inside depth (c :: s) = afterClosing? .inside depth s := by
  simp [afterClosing?, h]

theorem afterClosing?_unit {a b c d : Char} {n : Nat}
    (h : Text.hexNumber? [a, b, c, d] = some n) (depth : Nat) (s : List Char) :
    afterClosing? .inside depth ('\\' :: 'u' :: a :: b :: c :: d :: s) =
      afterClosing? .inside depth s := by
  have hne := ne_of_hexNumber? h
  rw [afterClosing?_escaped, afterClosing?_char (hne a (by simp)),
    afterClosing?_char (hne b (by simp)), afterClosing?_char (hne c (by simp)),
    afterClosing?_char (hne d (by simp))]

theorem afterClosing?_of_readChars {fillers : Text.Fillers} {start : List Char}
    {done : List Text.Point} {s r : List Char} {x : Text.Raw}
    (h : readChars fillers start done s = .ok (x, r)) (depth : Nat) :
    afterClosing? .inside depth s = afterClosing? .outside depth r := by
  fun_induction readChars fillers start done s with
  | case2 =>
    cases h
    simp [afterClosing?]
  | case4 _ _ _ _ _ _ _ _ _ _ _ _ hunit _ _ hunit' _ ih =>
    rw [afterClosing?_unit hunit, afterClosing?_unit hunit', ih h]
  | case5 _ _ _ _ _ _ _ _ _ _ _ _ hunit _ _ _ _ ih => rw [afterClosing?_unit hunit, ih h]
  | case7 _ _ _ _ _ _ _ _ _ _ _ _ hunit _ ih => rw [afterClosing?_unit hunit, ih h]
  | case8 _ _ _ _ _ _ _ _ _ hunit ih => rw [afterClosing?_unit hunit, ih h]
  | case11 _ _ _ _ _ _ _ ih => rw [afterClosing?_escaped, ih h]
  | case15 _ c s hquote _ _ hpair hlast _ ih =>
    have hback : c ≠ '\\' := by
      rintro rfl
      cases s with
      | nil => exact hlast rfl rfl
      | cons c s => exact hpair c s rfl rfl
    rw [afterClosing?_char ⟨hquote, hback⟩, ih h]
  | case1 | case3 | case6 | case9 | case10 | case12 | case13 | case14 => cases h

theorem afterClosing?_of_readString {fillers : Text.Fillers} {s r : List Char} {x : Text.Raw}
    (h : readString fillers ('"' :: s) = .ok (x, r)) (depth : Nat) :
    afterClosing? .outside (depth + 1) ('"' :: s) = afterClosing? .outside (depth + 1) r := by
  rw [← afterClosing?_of_readChars h (depth + 1)]
  simp [afterClosing?]

/-! ## Characters that open and close nothing -/

/-- Whether a character is neither a bracket nor a quote. -/
def isInert (c : Char) : Bool :=
  c != '"' && c != '[' && c != '{' && c != ']' && c != '}'

theorem afterClosing?_inert {w : List Char} (h : w.all isInert) (depth : Nat) (s : List Char) :
    afterClosing? .outside (depth + 1) (w ++ s) = afterClosing? .outside (depth + 1) s := by
  induction w with
  | nil => rfl
  | cons c w ih =>
    simp only [List.all_cons, Bool.and_eq_true, isInert, bne_iff_ne] at h
    rw [List.cons_append, afterClosing?]
    simp [h, ih h.2]

theorem afterClosing?_takeWhile {p : Char → Bool} (h : ∀ c, p c → isInert c) (depth : Nat)
    (s : List Char) :
    afterClosing? .outside (depth + 1) (s.dropWhile p) = afterClosing? .outside (depth + 1) s := by
  conv_rhs => rw [← List.takeWhile_append_dropWhile (p := p) (l := s)]
  refine (afterClosing?_inert (List.all_eq_true.2 fun c hc => h c ?_) depth _).symm
  exact List.all_eq_true.1 List.all_takeWhile c hc

theorem afterClosing?_skipSpaces (depth : Nat) (s : List Char) :
    afterClosing? .outside (depth + 1) (skipSpaces s) = afterClosing? .outside (depth + 1) s := by
  refine afterClosing?_takeWhile (fun c hc => ?_) depth s
  simp only [isSpace, Bool.or_eq_true, beq_iff_eq] at hc
  rcases hc with ((rfl | rfl) | rfl) | rfl <;> rfl

theorem afterClosing?_digits (depth : Nat) (s : List Char) :
    afterClosing? .outside (depth + 1) (s.dropWhile isAsciiDigit) =
      afterClosing? .outside (depth + 1) s := by
  refine afterClosing?_takeWhile (fun c hc => ?_) depth s
  simp only [isAsciiDigit, Bool.and_eq_true, decide_eq_true_eq] at hc
  simp only [isInert, Bool.and_eq_true, bne_iff_ne]
  refine ⟨⟨⟨⟨?_, ?_⟩, ?_⟩, ?_⟩, ?_⟩ <;>
  · rintro rfl
    revert hc
    decide

/-! ## Scalars -/

theorem afterClosing?_of_readWhole (depth : Nat) (s : List Char) :
    afterClosing? .outside (depth + 1) (readWhole s).2 = afterClosing? .outside (depth + 1) s := by
  unfold readWhole
  split
  · simp [afterClosing?]
  · exact afterClosing?_digits depth s

theorem afterClosing?_of_readFraction (depth : Nat) (s : List Char) :
    afterClosing? .outside (depth + 1) (readFraction s).2 =
      afterClosing? .outside (depth + 1) s := by
  unfold readFraction
  split
  · split_ifs
    · rfl
    · rw [afterClosing?_digits]
      simp [afterClosing?]
  · rfl

theorem afterClosing?_of_readSign (depth : Nat) (s : List Char) :
    afterClosing? .outside (depth + 1) (Numeral.readSign s).2 =
      afterClosing? .outside (depth + 1) s := by
  unfold Numeral.readSign
  split <;> simp [afterClosing?]

theorem afterClosing?_of_readPower (depth : Nat) (s : List Char) :
    afterClosing? .outside (depth + 1) (readPower s).2 = afterClosing? .outside (depth + 1) s := by
  unfold readPower
  split
  · rename_i c t
    split_ifs with hc
    · have hrest : afterClosing? .outside (depth + 1)
          ((Numeral.readSign t).2.dropWhile isAsciiDigit) =
          afterClosing? .outside (depth + 1) (c :: t) := by
        rw [afterClosing?_digits, afterClosing?_of_readSign]
        rcases hc with rfl | rfl <;> simp [afterClosing?]
      dsimp only
      split_ifs
      exacts [rfl, hrest, hrest]
    · rfl
  · rfl

theorem afterClosing?_of_readNumber {s r : List Char} {x : Json} (h : readNumber s = .ok (x, r))
    (depth : Nat) :
    afterClosing? .outside (depth + 1) s = afterClosing? .outside (depth + 1) r := by
  unfold readNumber at h
  split at h
  rename_i negative t hsign
  have hsign : afterClosing? .outside (depth + 1) s = afterClosing? .outside (depth + 1) t := by
    split at hsign
    · cases hsign
      simp [afterClosing?]
    · cases hsign
      rfl
  have hrest : afterClosing? .outside (depth + 1)
      (readPower (readFraction (readWhole t).2).2).2 = afterClosing? .outside (depth + 1) s := by
    rw [afterClosing?_of_readPower, afterClosing?_of_readFraction, afterClosing?_of_readWhole,
      hsign]
  rw [← hrest]
  dsimp only at h
  split_ifs at h <;> cases h <;> rfl

theorem afterClosing?_of_readScalar {s r : List Char} {x : Json} (h : readScalar s = .ok (x, r))
    (depth : Nat) :
    afterClosing? .outside (depth + 1) s = afterClosing? .outside (depth + 1) r := by
  unfold readScalar at h
  split at h
  · rename_i word value hfind
    cases h
    have hword : word.isPrefixOf s := by simpa using List.find?_some hfind
    obtain ⟨t, rfl⟩ := List.isPrefixOf_iff_prefix.1 hword
    have hinert : ∀ word ∈ words, word.1.all isInert := by decide
    rw [List.drop_left, afterClosing?_inert (hinert _ (List.mem_of_find?_eq_some hfind))]
  · exact afterClosing?_of_readNumber h depth

/-! ## Values -/

/-- What is read with this fuel ends where the scan ends: a value opens no bracket that it does not
close, and the items of an array and the members of an object end with the closing bracket. -/
structure ReadsToEnd (fillers : Text.Fillers) (fuel : Nat) : Prop where
  value {nesting : Nat} {s r : List Char} {x : Json}
    (h : readValue fillers fuel nesting s = .ok (x, r)) (depth : Nat) :
    afterClosing? .outside (depth + 1) s = afterClosing? .outside (depth + 1) r
  items {nesting : Nat} {done : List Json} {s r : List Char} {x : Json}
    (h : readItems fillers fuel nesting done s = .ok (x, r)) (depth : Nat) :
    afterClosing? .outside (depth + 1) s = afterClosing? .outside depth r
  members {nesting : Nat} {done : List (Text.Raw × Json)} {s r : List Char} {x : Json}
    (h : readMembers fillers fuel nesting done s = .ok (x, r)) (depth : Nat) :
    afterClosing? .outside (depth + 1) s = afterClosing? .outside depth r
  member {nesting : Nat} {s r : List Char} {m : Text.Raw × Json}
    (h : readMember fillers fuel nesting s = .ok (m, r)) (depth : Nat) :
    afterClosing? .outside (depth + 1) s = afterClosing? .outside (depth + 1) r

namespace ReadsToEnd

variable {fillers : Text.Fillers} {fuel nesting : Nat} {s r : List Char}

theorem bracketed (ends : ReadsToEnd fillers fuel) {c : Char} {x : Json} (hc : c = '[' ∨ c = '{')
    (h : readValue fillers (fuel + 1) nesting (c :: s) = .ok (x, r)) (depth : Nat) :
    afterClosing? .outside (depth + 1) s = afterClosing? .outside depth r := by
  rw [← afterClosing?_skipSpaces]
  rcases hc with rfl | rfl
  · cases nesting with
    | zero => simp [readValue] at h
    | succ nesting =>
      simp only [readValue] at h
      split at h
      · rename_i hs
        cases h
        simp [hs, afterClosing?]
      · exact ends.items h depth
  · cases nesting with
    | zero => simp [readValue] at h
    | succ nesting =>
      simp only [readValue] at h
      split at h
      · rename_i hs
        cases h
        simp [hs, afterClosing?]
      · exact ends.members h depth

theorem nextValue (ends : ReadsToEnd fillers fuel) {x : Json}
    (h : readValue fillers (fuel + 1) nesting s = .ok (x, r)) (depth : Nat) :
    afterClosing? .outside (depth + 1) s = afterClosing? .outside (depth + 1) r := by
  have hbracket {c : Char} {s : List Char} (hc : c = '[' ∨ c = '{')
      (h : readValue fillers (fuel + 1) nesting (c :: s) = .ok (x, r)) :
      afterClosing? .outside (depth + 1) (c :: s) = afterClosing? .outside (depth + 1) r := by
    rw [← ends.bracketed hc h]
    rcases hc with rfl | rfl <;> simp [afterClosing?]
  have hread := h
  unfold readValue at h
  split at h
  · obtain ⟨⟨text, r⟩, hstring, hpair⟩ := exceptMap_eq_ok.1 h
    cases hpair
    exact afterClosing?_of_readString hstring depth
  · exact hbracket (.inl rfl) hread
  · exact hbracket (.inr rfl) hread
  · exact hbracket (.inl rfl) hread
  · exact hbracket (.inr rfl) hread
  · exact afterClosing?_of_readScalar h depth

theorem nextItems (ends : ReadsToEnd fillers fuel) {done : List Json} {x : Json}
    (h : readItems fillers (fuel + 1) nesting done s = .ok (x, r)) (depth : Nat) :
    afterClosing? .outside (depth + 1) s = afterClosing? .outside depth r := by
  unfold readItems at h
  split at h
  · cases h
  · rename_i hread
    rw [ends.value hread, ← afterClosing?_skipSpaces]
    split at h
    · rename_i hs
      cases h
      simp [hs, afterClosing?]
    · rename_i hs
      rw [hs, ← ends.items h depth, afterClosing?_skipSpaces]
      simp [afterClosing?]
    · cases h

theorem nextMembers (ends : ReadsToEnd fillers fuel) {done : List (Text.Raw × Json)} {x : Json}
    (h : readMembers fillers (fuel + 1) nesting done s = .ok (x, r)) (depth : Nat) :
    afterClosing? .outside (depth + 1) s = afterClosing? .outside depth r := by
  unfold readMembers at h
  split at h
  · cases h
  · rename_i hread
    rw [ends.member hread, ← afterClosing?_skipSpaces]
    split at h
    · rename_i hs
      cases h
      simp [hs, afterClosing?]
    · rename_i hs
      rw [hs, ← ends.members h depth, afterClosing?_skipSpaces]
      simp [afterClosing?]
    · cases h

theorem nextMember (ends : ReadsToEnd fillers fuel) {m : Text.Raw × Json}
    (h : readMember fillers (fuel + 1) nesting s = .ok (m, r)) (depth : Nat) :
    afterClosing? .outside (depth + 1) s = afterClosing? .outside (depth + 1) r := by
  unfold readMember at h
  split at h
  · split at h
    · cases h
    · rename_i hread
      rw [afterClosing?_of_readString hread, ← afterClosing?_skipSpaces]
      split at h
      · rename_i hs
        obtain ⟨⟨x, r⟩, hvalue, hpair⟩ := exceptMap_eq_ok.1 h
        cases hpair
        rw [hs, ← ends.value hvalue, afterClosing?_skipSpaces]
        simp [afterClosing?]
      · cases h
  · cases h

end ReadsToEnd

/-- The readers call each other with less fuel. -/
theorem readsToEnd (fillers : Text.Fillers) (fuel : Nat) : ReadsToEnd fillers fuel := by
  induction fuel with
  | zero => constructor <;> intros <;> simp_all [readValue, readItems, readMembers, readMember, fail]
  | succ fuel ends => exact ⟨ends.nextValue, ends.nextItems, ends.nextMembers, ends.nextMember⟩

/-- A text that breaks off before its closing bracket is no value. -/
theorem exists_error_of_prefix {fillers : Text.Fillers} {nesting : Nat} {c : Char}
    {s p : List Char} (hc : c = '[' ∨ c = '{') (hend : afterClosing? .outside 1 s = some [])
    (hstart : p <+: c :: s) (hne : p ≠ c :: s) : ∃ e, readNested fillers nesting p = .error e := by
  cases hread : readNested fillers nesting p with
  | error e => exact ⟨e, rfl⟩
  | ok x =>
    exfalso
    obtain ⟨⟨y, r⟩, hvalue, hrest⟩ := bind_eq_ok.1 hread
    obtain _ | ⟨c', p⟩ := p
    · simp [skipSpaces, readValue, readScalar, readNumber, readWhole, words, fail] at hvalue
    · obtain ⟨rfl, q, rfl⟩ := List.cons_prefix_cons.1 hstart
      have hspace : isSpace c' = false := by rcases hc with rfl | rfl <;> rfl
      rw [skipSpaces, List.dropWhile_cons_of_neg (by simp [hspace])] at hvalue
      have hclosed := (readsToEnd fillers _).bracketed hc hvalue 0
      rw [afterClosing?.eq_1] at hclosed
      have hall := afterClosing?_append q hclosed
      rw [hend] at hall
      simp at hall
      exact hne (by simp [hall])

end Billing.Json
