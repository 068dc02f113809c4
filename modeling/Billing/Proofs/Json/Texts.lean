import Billing.Json.Writer
import Billing.Proofs.Json.Ends
import Mathlib.Data.List.Nodup

/-!
# Objects of texts in a file

An object whose values are texts is written with a line for each member (`Json.indented`). If its
texts are whole and its keys distinct, it is read back as it is; and whatever its texts are, a text
that breaks off before the end of the object cannot be read.

* `read_indented_ofTexts`: what is written to its end.
* `exists_error_of_read_take`: what breaks off.
-/

namespace Billing.Json

/-- An object of texts. -/
def ofTexts (ms : List (Text.Raw × Text.Raw)) : Json := obj (ms.map fun (key, s) => (key, ofRaw s))

/-! ## Strings -/

/-- The characters between the quotes of a string. -/
def stringBody (s : Text.Raw) : List Char := s.points.flatMap escapePoint

theorem toList_quote (s : Text.Raw) : (quote s).toList = '"' :: (stringBody s ++ ['"']) := by
  simp [quote, stringBody]

theorem hexDigits_four : ∀ n < 0x20, Text.hexDigits 4 n =
    ['0', '0', Nat.digitChar (n / 16), Nat.digitChar (n % 16)] ∧
      Text.hexNumber? ['0', '0', Nat.digitChar (n / 16), Nat.digitChar (n % 16)] = some n := by
  decide

theorem readChars_unit {fillers : Text.Fillers} {start s : List Char} {done : List Text.Point}
    {a b c d : Char} {n : Nat} (hn : Text.hexNumber? [a, b, c, d] = some n)
    (hhigh : Text.isHighHalf n = false) (hs : s ≠ []) :
    readChars fillers start done ('\\' :: 'u' :: a :: b :: c :: d :: s) =
      readChars fillers start (Text.ofUnit n :: done) s := by
  rw [readChars.eq_def]
  simp only [hn]
  split
  · contradiction
  · rename_i hsome
    cases hsome
    rw [if_neg (by simp [hhigh])]
  · rename_i hsome
    cases hsome
    rfl
  · contradiction

theorem readChars_char {fillers : Text.Fillers} {start s : List Char} {done : List Text.Point}
    {c : Char} (hquote : c ≠ '"') (hback : c ≠ '\\') (hcontrol : ¬c.toNat < 0x20) :
    readChars fillers start done (c :: s) =
      readChars fillers start (fillers.point c :: done) s := by
  simp [readChars, hback, hcontrol]

/-- A character that is escaped is read back. -/
theorem readChars_escape (start s : List Char) (done : List Text.Point) (c : Char) (hs : s ≠ []) :
    readChars [] start done (escape c ++ s) = readChars [] start (.char c :: done) s := by
  unfold escape
  split
  · simp [readChars, unescape?]
  · simp [readChars, unescape?]
  · simp [readChars, unescape?]
  · simp [readChars, unescape?]
  · simp [readChars, unescape?]
  · simp [readChars, unescape?]
  · simp [readChars, unescape?]
  · rename_i hquote hback _ _ _ _ _
    split_ifs with hcontrol
    · obtain ⟨hdigits, hvalue⟩ := hexDigits_four c.toNat hcontrol
      have hhigh : Text.isHighHalf c.toNat = false := by simp [Text.isHighHalf]; omega
      have hlow : Text.isLowHalf c.toNat = false := by simp [Text.isLowHalf]; omega
      rw [hdigits]
      simp only [List.cons_append, List.nil_append]
      rw [readChars_unit hvalue hhigh hs]
      simp [Text.ofUnit, hhigh, hlow]
    · exact readChars_char hquote hback hcontrol

theorem readChars_stringBody (start r : List Char) (done : List Text.Point) (s : List Char) :
    readChars [] start done (s.flatMap escape ++ '"' :: r) =
      .ok (.ofPoints (done.reverse ++ s.map .char), r) := by
  induction s generalizing done with
  | nil => simp [readChars]
  | cons c s ih =>
    rw [List.flatMap_cons, List.append_assoc, readChars_escape _ _ _ _ (by simp), ih]
    simp

theorem readString_quote {s : Text.Raw} (h : s.isWhole) (r : List Char) :
    readString [] ('"' :: (stringBody s ++ '"' :: r)) = .ok (s, r) := by
  cases s with
  | torn => cases h
  | whole s =>
    have hbody : stringBody s = s.toList.flatMap escape := by
      simp [stringBody, Text.Raw.points, List.flatMap_map, escapePoint]
    rw [readString, List.tail_cons, hbody, readChars_stringBody]
    simp [Text.Raw.ofPoints_map_char]

/-! ## Members -/

/-- The text of a member. -/
def memberText (m : Text.Raw × Text.Raw) : List Char :=
  '"' :: (stringBody m.1 ++ '"' :: ':' :: ' ' :: '"' :: (stringBody m.2 ++ ['"']))

/-- The text of an object from its first member on. -/
def membersText (m : Text.Raw × Text.Raw) : List (Text.Raw × Text.Raw) → List Char
  | [] => memberText m ++ ['\n', '}']
  | m' :: ms => memberText m ++ ',' :: '\n' :: ' ' :: ' ' :: membersText m' ms

theorem pieces_ofRaw (indent : Bool) (depth : Nat) (s : Text.Raw) :
    pieces indent depth (ofRaw s) = [quotedPiece s] := by cases s <;> simp [ofRaw, pieces]

/-- The pieces of a member. -/
def memberPieces (m : Text.Raw × Text.Raw) : List Piece := [quotedPiece m.1, ": ", quotedPiece m.2]

theorem piecesOfMembers_texts (indent : Bool) (depth : Nat) (ms : List (Text.Raw × Text.Raw)) :
    piecesOfMembers indent depth (ms.map fun (key, s) => (key, ofRaw s)) =
      ms.map memberPieces := by
  induction ms with
  | nil => rfl
  | cons m ms ih => simp [piecesOfMembers, pieces_ofRaw, ih, memberPieces]

theorem indentedPieces_ofTexts (ms : List (Text.Raw × Text.Raw)) :
    (ofTexts ms).indentedPieces = enclose true 0 "\x7b" "\x7d" (ms.map memberPieces) := by
  rw [indentedPieces, ofTexts, pieces, piecesOfMembers_texts]

theorem flatMap_memberPieces (m : Text.Raw × Text.Raw) :
    (memberPieces m).flatMap (·.text.toList) = memberText m := by
  simp [memberPieces, quotedPiece, toList_quote, memberText]

theorem flatMap_intercalate_memberPieces (m : Text.Raw × Text.Raw)
    (ms : List (Text.Raw × Text.Raw)) :
    (List.intercalate [(↑("," ++ lineBreak true 1) : Piece)] ((m :: ms).map memberPieces)).flatMap
      (·.text.toList) ++ ['\n', '}'] = membersText m ms := by
  induction ms generalizing m with
  | nil => simp [membersText, flatMap_memberPieces]
  | cons m' ms ih =>
    rw [List.map_cons, List.map_cons, List.intercalate_cons_cons, ← List.map_cons,
      List.flatMap_append, List.flatMap_append, flatMap_memberPieces, List.append_assoc, ih]
    simp [membersText, lineBreak]

theorem toList_indented_ofTexts_cons (m : Text.Raw × Text.Raw) (ms : List (Text.Raw × Text.Raw)) :
    (ofTexts (m :: ms)).indented.toList = '{' :: '\n' :: ' ' :: ' ' :: membersText m ms := by
  rw [indented, join, String.toList_join, List.flatMap_map, indentedPieces_ofTexts,
    ← flatMap_intercalate_memberPieces]
  simp [enclose, lineBreak]

theorem toList_indented_ofTexts_nil : (ofTexts []).indented.toList = ['{', '}'] := by
  rw [indented, join, String.toList_join, List.flatMap_map, indentedPieces_ofTexts]
  rfl

/-! ## Pieces that can be stored -/

theorem mem_intercalate_of_mem {sep p : Piece} {item : List Piece} {items : List (List Piece)}
    (hitem : item ∈ items) (hp : p ∈ item) : p ∈ List.intercalate [sep] items := by
  induction items with
  | nil => cases hitem
  | cons x xs ih =>
    cases xs with
    | nil =>
      rw [List.intercalate_singleton]
      rwa [← List.mem_singleton.1 hitem]
    | cons y xs =>
      rw [List.intercalate_cons_cons, List.mem_append, List.mem_append]
      obtain rfl | hitem := List.mem_cons.1 hitem
      · exact .inl (.inl hp)
      · exact .inr (ih hitem)

theorem eq_or_exists_of_mem_intercalate {sep p : Piece} {items : List (List Piece)}
    (h : p ∈ List.intercalate [sep] items) : p = sep ∨ ∃ item ∈ items, p ∈ item := by
  induction items with
  | nil => cases h
  | cons x xs ih =>
    cases xs with
    | nil =>
      rw [List.intercalate_singleton] at h
      exact .inr ⟨x, List.mem_singleton_self x, h⟩
    | cons y xs =>
      rw [List.intercalate_cons_cons, List.mem_append, List.mem_append] at h
      obtain (hx | hsep) | hrest := h
      · exact .inr ⟨x, List.mem_cons_self, hx⟩
      · exact .inl (List.mem_singleton.1 hsep)
      · exact (ih hrest).imp_right fun ⟨item, hitem, hp⟩ => ⟨item, List.mem_cons_of_mem x hitem, hp⟩

/-- An object whose pieces can be stored holds whole texts only. -/
theorem isWhole_of_all_isWhole {ms : List (Text.Raw × Text.Raw)}
    (h : (ofTexts ms).indentedPieces.all (·.isWhole)) : ∀ m ∈ ms, m.1.isWhole ∧ m.2.isWhole := by
  intro m hm
  have hne : (ms.map memberPieces).isEmpty = false := by
    cases ms with
    | nil => cases hm
    | cons => rfl
  have hpiece {p : Piece} (hp : p ∈ memberPieces m) : p.isWhole := by
    refine List.all_eq_true.1 h p ?_
    rw [indentedPieces_ofTexts, enclose, if_neg (by simp [hne])]
    refine List.mem_append_left _ (List.mem_cons_of_mem _ (List.mem_cons_of_mem _ ?_))
    exact mem_intercalate_of_mem (List.mem_map_of_mem hm) hp
  exact ⟨hpiece (p := quotedPiece m.1) (by simp [memberPieces]),
    hpiece (p := quotedPiece m.2) (by simp [memberPieces])⟩

/-- Only strings cannot be stored. -/
theorem isWhole_or_eq_quotedPiece {ms : List (Text.Raw × Text.Raw)} {p : Piece}
    (h : p ∈ (ofTexts ms).indentedPieces) : p.isWhole ∨ ∃ s, p = quotedPiece s := by
  rw [indentedPieces_ofTexts, enclose] at h
  by_cases hempty : (ms.map memberPieces).isEmpty
  · rw [if_pos hempty] at h
    exact .inl (by rw [List.mem_singleton.1 h])
  · rw [if_neg hempty] at h
    simp only [List.cons_append, List.mem_cons, List.mem_append, List.not_mem_nil, or_false] at h
    obtain rfl | rfl | h | rfl | rfl := h
    · exact .inl rfl
    · exact .inl rfl
    · obtain rfl | ⟨_, hitem, hp⟩ := eq_or_exists_of_mem_intercalate h
      · exact .inl rfl
      · obtain ⟨m, -, rfl⟩ := List.mem_map.1 hitem
        simp only [memberPieces, List.mem_cons, List.not_mem_nil, or_false] at hp
        obtain rfl | rfl | rfl := hp
        · exact .inr ⟨_, rfl⟩
        · exact .inl rfl
        · exact .inr ⟨_, rfl⟩
    · exact .inl rfl
    · exact .inl rfl

/-- Where a piece cannot be stored, the pieces before it are not the whole text. -/
theorem length_takeWhile_lt {ms : List (Text.Raw × Text.Raw)}
    (h : (ofTexts ms).indentedPieces.all (·.isWhole) = false) :
    (join ((ofTexts ms).indentedPieces.takeWhile (·.isWhole))).length <
      (ofTexts ms).indented.length := by
  have hsplit := List.takeWhile_append_dropWhile (p := Piece.isWhole)
    (l := (ofTexts ms).indentedPieces)
  have hne : (ofTexts ms).indentedPieces.dropWhile (·.isWhole) ≠ [] := by
    intro hnil
    rw [hnil, List.append_nil] at hsplit
    rw [← hsplit, List.all_takeWhile] at h
    cases h
  obtain ⟨p, ps, hps⟩ := List.exists_cons_of_ne_nil hne
  have hp : p.isWhole = false := by
    simpa [hps] using List.head_dropWhile_not Piece.isWhole hne
  have hmem : p ∈ (ofTexts ms).indentedPieces :=
    (List.dropWhile_sublist _).subset (hps ▸ List.mem_cons_self)
  obtain hwhole | ⟨s, rfl⟩ := isWhole_or_eq_quotedPiece hmem
  · simp [hwhole] at hp
  · have htext : (ofTexts ms).indented =
        join ((ofTexts ms).indentedPieces.takeWhile (·.isWhole)) ++ join (quotedPiece s :: ps) := by
      rw [← hps, join, join, ← String.join_append, ← List.map_append, hsplit]
      rfl
    have hpos : 0 < (join (quotedPiece s :: ps)).length := by
      simp [join, quotedPiece, ← String.length_toList, toList_quote]
    rw [htext, String.length_append]
    omega

/-! ## Reading what is written -/

theorem put_of_not_mem {key : Text.Raw} {value : Json} {ms : List (Text.Raw × Json)}
    (h : key ∉ ms.map (·.1)) : put key value ms = ms ++ [(key, value)] := by
  induction ms with
  | nil => rfl
  | cons m ms ih =>
    simp only [List.map_cons, List.mem_cons, not_or] at h
    rw [put, if_neg (Ne.symm h.1), ih h.2, List.cons_append]

theorem readMember_memberText {m : Text.Raw × Text.Raw} (hkey : m.1.isWhole) (hvalue : m.2.isWhole)
    (fuel nesting : Nat) (r : List Char) :
    readMember [] (fuel + 2) nesting (memberText m ++ r) = .ok ((m.1, ofRaw m.2), r) := by
  simp only [memberText, List.cons_append, List.append_assoc, List.nil_append, readMember,
    readString_quote hkey]
  simp [skipSpaces, isSpace, readValue, readString_quote hvalue, Except.map]

theorem exists_cons_membersText (m : Text.Raw × Text.Raw) (ms : List (Text.Raw × Text.Raw)) :
    ∃ t, membersText m ms = '"' :: t := by
  cases ms <;> exact ⟨_, rfl⟩

theorem dropWhile_isSpace_membersText (m : Text.Raw × Text.Raw) (ms : List (Text.Raw × Text.Raw))
    (r : List Char) : (membersText m ms ++ r).dropWhile isSpace = membersText m ms ++ r := by
  obtain ⟨t, ht⟩ := exists_cons_membersText m ms
  simp [ht, isSpace]

/-- The members of an object are read one after the other, behind those that are read already. -/
theorem readMembers_membersText {m : Text.Raw × Text.Raw} {ms : List (Text.Raw × Text.Raw)}
    (done : List (Text.Raw × Json)) (hwhole : ∀ m' ∈ m :: ms, m'.1.isWhole ∧ m'.2.isWhole)
    (hdistinct : (done.map (·.1) ++ (m :: ms).map (·.1)).Nodup) {fuel : Nat}
    (hfuel : ms.length + 3 ≤ fuel) (nesting : Nat) (r : List Char) :
    readMembers [] fuel nesting done (membersText m ms ++ r) =
      .ok (obj (done ++ (m :: ms).map fun (key, s) => (key, ofRaw s)), r) := by
  induction ms generalizing m done fuel with
  | nil =>
    obtain ⟨⟨hkey, hvalue⟩, -⟩ := List.forall_mem_cons.1 hwhole
    have hnew : m.1 ∉ done.map (·.1) := fun h => List.disjoint_of_nodup_append hdistinct h (by simp)
    obtain ⟨fuel, rfl⟩ : ∃ n, fuel = n + 3 := ⟨fuel - 3, by simp at hfuel; omega⟩
    rw [membersText, List.append_assoc, readMembers, readMember_memberText hkey hvalue]
    simp [skipSpaces, isSpace, put_of_not_mem hnew]
  | cons m' ms ih =>
    obtain ⟨⟨hkey, hvalue⟩, hwhole⟩ := List.forall_mem_cons.1 hwhole
    have hnew : m.1 ∉ done.map (·.1) := fun h => List.disjoint_of_nodup_append hdistinct h (by simp)
    obtain ⟨fuel, rfl⟩ : ∃ n, fuel = n + 3 := ⟨fuel - 3, by simp at hfuel; omega⟩
    have hfuel' : ms.length + 3 ≤ fuel + 2 := by
      rw [List.length_cons] at hfuel
      omega
    have hnext := ih (done ++ [(m.1, ofRaw m.2)]) hwhole (by simpa using hdistinct) hfuel'
    rw [membersText, List.append_assoc, readMembers, readMember_memberText hkey hvalue]
    simp [skipSpaces, isSpace, put_of_not_mem hnew, dropWhile_isSpace_membersText, hnext]

theorem length_le_length_membersText (m : Text.Raw × Text.Raw) (ms : List (Text.Raw × Text.Raw)) :
    ms.length ≤ (membersText m ms).length := by
  induction ms generalizing m with
  | nil => simp
  | cons m' ms ih =>
    have := ih m'
    simp [membersText]
    omega

/-- An object of whole texts under distinct keys is read back as it was written. -/
theorem read_indented_ofTexts {ms : List (Text.Raw × Text.Raw)}
    (hwhole : ∀ m ∈ ms, m.1.isWhole ∧ m.2.isWhole) (hdistinct : (ms.map (·.1)).Nodup) :
    read (ofTexts ms).indented = .ok (ofTexts ms) := by
  cases ms with
  | nil =>
    rw [read, toList_indented_ofTexts_nil]
    simp [readNested, nestingLimit, skipSpaces, isSpace, readValue, bind, Except.bind, ofTexts]
  | cons m ms =>
    have hlength := length_le_length_membersText m ms
    have hfuel : ms.length + 3 ≤ 3 * (membersText m ms).length + 14 := by omega
    have hmembers := readMembers_membersText [] hwhole (by simpa using hdistinct) hfuel 959 []
    have hvalue : readValue [] (3 * (membersText m ms).length + 14 + 1) (959 + 1)
        ('{' :: '\n' :: ' ' :: ' ' :: membersText m ms) = .ok (ofTexts (m :: ms), []) := by
      generalize 3 * (membersText m ms).length + 14 = fuel at hmembers ⊢
      obtain ⟨t, ht⟩ := exists_cons_membersText m ms
      rw [List.append_nil, ht] at hmembers
      simp [readValue, skipSpaces, isSpace, ht, hmembers, ofTexts]
    rw [read, toList_indented_ofTexts_cons, readNested]
    exact bind_eq_ok.2 ⟨_, hvalue, rfl⟩

/-! ## Texts that break off -/

theorem ne_of_mem_toDigits (n : Nat) : ∀ c ∈ Nat.toDigits 16 n, c ≠ '"' ∧ c ≠ '\\' := by
  have hdigit : ∀ k < 16, Nat.digitChar k ≠ '"' ∧ Nat.digitChar k ≠ '\\' := by decide
  induction n using Nat.strongRecOn with
  | ind n ih =>
    rw [Nat.toDigits_eq_if (by decide)]
    split_ifs with h
    · simp [hdigit n h]
    · simp only [List.mem_append, List.mem_singleton]
      rintro c (hc | rfl)
      · exact ih (n / 16) (by omega) c hc
      · exact hdigit _ (Nat.mod_lt _ (by decide))

theorem afterClosing?_plain {w : List Char} (h : ∀ c ∈ w, c ≠ '"' ∧ c ≠ '\\') (depth : Nat)
    (r : List Char) : afterClosing? .inside depth (w ++ r) = afterClosing? .inside depth r := by
  induction w with
  | nil => rfl
  | cons c w ih =>
    obtain ⟨hc, hw⟩ := List.forall_mem_cons.1 h
    rw [List.cons_append, afterClosing?_char hc, ih hw]

theorem afterClosing?_hexDigits (n depth : Nat) (r : List Char) :
    afterClosing? .inside depth ('\\' :: 'u' :: (Text.hexDigits 4 n ++ r)) =
      afterClosing? .inside depth r := by
  rw [afterClosing?_escaped, Text.hexDigits, List.append_assoc,
    afterClosing?_plain fun c hc => ?_, afterClosing?_plain (ne_of_mem_toDigits n)]
  obtain rfl := List.eq_of_mem_replicate hc
  decide

theorem afterClosing?_escapePoint (p : Text.Point) (depth : Nat) (r : List Char) :
    afterClosing? .inside depth (escapePoint p ++ r) = afterClosing? .inside depth r := by
  cases p with
  | half u => exact afterClosing?_hexDigits u depth r
  | char c =>
    rw [escapePoint]
    unfold escape
    split
    all_goals try exact afterClosing?_escaped depth _ r
    rename_i hquote hback _ _ _ _ _
    split_ifs
    · exact afterClosing?_hexDigits c.toNat depth r
    · exact afterClosing?_char ⟨hquote, hback⟩ r

theorem afterClosing?_stringBody (s : Text.Raw) (depth : Nat) (r : List Char) :
    afterClosing? .inside depth (stringBody s ++ r) = afterClosing? .inside depth r := by
  unfold stringBody
  induction s.points with
  | nil => rfl
  | cons p ps ih => rw [List.flatMap_cons, List.append_assoc, afterClosing?_escapePoint, ih]

theorem afterClosing?_memberText (m : Text.Raw × Text.Raw) (depth : Nat) (r : List Char) :
    afterClosing? .outside (depth + 1) (memberText m ++ r) =
      afterClosing? .outside (depth + 1) r := by
  simp [memberText, afterClosing?, afterClosing?_stringBody]

theorem afterClosing?_membersText (m : Text.Raw × Text.Raw) (ms : List (Text.Raw × Text.Raw)) :
    afterClosing? .outside 1 (membersText m ms) = some [] := by
  induction ms generalizing m with
  | nil =>
    rw [membersText, afterClosing?_memberText]
    simp [afterClosing?]
  | cons m' ms ih =>
    rw [membersText, afterClosing?_memberText]
    simp [afterClosing?, ih]

/-- An object of texts that breaks off before its end cannot be read. -/
theorem exists_error_of_read_take (ms : List (Text.Raw × Text.Raw)) {n : Nat}
    (h : n < (ofTexts ms).indented.length) :
    ∃ e, read (String.ofList ((ofTexts ms).indented.toList.take n)) = .error e := by
  have hne : (ofTexts ms).indented.toList.take n ≠ (ofTexts ms).indented.toList := fun heq => by
    have hlength := congrArg List.length heq
    rw [List.length_take, String.length_toList] at hlength
    omega
  rw [read, String.toList_ofList]
  cases ms with
  | nil =>
    rw [toList_indented_ofTexts_nil] at hne ⊢
    exact exists_error_of_prefix (.inr rfl) (by simp [afterClosing?]) (List.take_prefix ..) hne
  | cons m ms =>
    rw [toList_indented_ofTexts_cons] at hne ⊢
    refine exists_error_of_prefix (.inr rfl) ?_ (List.take_prefix ..) hne
    simp [afterClosing?, afterClosing?_membersText]

end Billing.Json
