import Primer.Json.Printer
import Primer.Json.Reader

/-!
# Reading back JSON

What the printer writes, the reader reads back. A value is read with the text after it, which has to
go on as in an array or an object, so that a number ends where it was written to end.
-/

namespace Primer.Json

/-! ## Strings -/

theorem hex4?_control : ∀ n < 32, hex4? '0' '0' (hexDigit (n / 16)) (hexDigit n) = some n := by
  decide

theorem pieces?_escapeChar (c : Char) (rest : List Char) :
    pieces? (escapeChar c ++ rest) = before (.char c) (pieces? rest) := by
  have control : c.toNat < 0x20 → Piece.ofCode c.toNat = .char c := by
    intro h
    rw [Piece.ofCode, if_neg (by omega), Char.ofNat_toNat]
  unfold escapeChar
  split
  · simp [pieces?, unescape?]
  · simp [pieces?, unescape?]
  · simp [pieces?, unescape?]
  · simp [pieces?, unescape?]
  · simp [pieces?, unescape?]
  · next hquote hslash _ _ _ =>
    split
    · next h =>
      have hc : c = Char.ofNat 0x08 := by
        rw [← Char.ofNat_toNat c, eq_of_beq h]
      subst hc
      simp [pieces?, unescape?]
    · split
      · next h =>
        have hc : c = Char.ofNat 0x0C := by
          rw [← Char.ofNat_toNat c, eq_of_beq h]
        subst hc
        simp [pieces?, unescape?]
      · split
        · next h =>
          simp [pieces?, hex4?_control c.toNat h, control h]
        · next h =>
          rw [List.singleton_append, pieces?.eq_5 c rest hquote (fun _ _ _ _ _ hc _ => hslash hc)
            (fun _ _ hc _ => hslash hc)]
          have hslash' : (c == '\\') = false := beq_eq_false_iff_ne.mpr hslash
          simp [hslash', h]

theorem pieces?_escaped (cs rest : List Char) :
    pieces? (cs.flatMap escapeChar ++ '"' :: rest) = some (cs.map .char, rest) := by
  induction cs with
  | nil => rw [List.flatMap_nil, List.nil_append, pieces?]; rfl
  | cons c cs ih =>
    rw [List.flatMap_cons, List.append_assoc, pieces?_escapeChar, ih]
    rfl

theorem textOf?_char (cs : List Char) : textOf? (cs.map .char) = some cs := by
  induction cs with
  | nil => rfl
  | cons c cs ih => rw [List.map_cons, textOf?, ih, Option.map_some]

theorem ofPieces_char (s : String) : ofPieces (s.toList.map .char) = .str s := by
  simp only [ofPieces, textOf?_char, String.ofList_toList]

theorem addMember_char (key : String) (j : Json) (members : List (String × Json)) :
    addMember (key.toList.map .char) j (some members) = some ((key, j) :: members) := by
  simp only [addMember, textOf?_char, String.ofList_toList]

/-! ## Numbers -/

/-- A text that goes on as after a value in an array or an object, or ends. -/
def Delimited (cs : List Char) : Prop := ∀ c ∈ cs.head?, c = ',' ∨ c = ']' ∨ c = '}'

theorem toDigits_head {n : Nat} (h : 0 < n) : (Nat.toDigits 10 n).head? ≠ some '0' := by
  induction n using Nat.strongRecOn with
  | ind n ih =>
    by_cases hn : n < 10
    · rw [Nat.toDigits_of_lt_base hn]
      have hdigit : ∀ k < 10, 0 < k → [Nat.digitChar k].head? ≠ some '0' := by decide
      exact hdigit n hn h
    · have hpos : 0 < n / 10 := by omega
      have hhead := ih (n / 10) (by omega) hpos
      rw [Nat.toDigits_of_base_le (by omega) (by omega)]
      cases hds : Nat.toDigits 10 (n / 10) with
      | nil => exact absurd hds (List.length_pos_iff.mp Nat.length_toDigits_pos)
      | cons d ds => rwa [hds] at hhead

theorem toDigits_short (n : Nat) :
    (Nat.toDigits 10 n).length = 1 ∨ (Nat.toDigits 10 n).head? ≠ some '0' := by
  cases n with
  | zero => exact .inl rfl
  | succ n => exact .inr (toDigits_head (Nat.succ_pos n))

theorem spanDigits_toDigits (n : Nat) {rest : List Char} (h : Delimited rest) :
    Numeric.spanDigits (Nat.toDigits 10 n ++ rest) = (Nat.toDigits 10 n, rest) := by
  have hdigits : ∀ c ∈ Nat.toDigits 10 n, c.isDigit = true := fun c hc =>
    Nat.isDigit_of_mem_toDigits (by decide) (by decide) hc
  have hrest : rest.takeWhile Char.isDigit = [] ∧ rest.dropWhile Char.isDigit = rest := by
    cases rest with
    | nil => exact ⟨rfl, rfl⟩
    | cons c cs => rcases h c rfl with rfl | rfl | rfl <;> exact ⟨rfl, rfl⟩
  rw [Numeric.spanDigits, List.takeWhile_append_of_pos hdigits, List.dropWhile_append_of_pos hdigits,
    hrest.1, hrest.2, List.append_nil]

theorem unsigned?_toDigits (n : Nat) {rest : List Char} (h : Delimited rest) :
    unsigned? (Nat.toDigits 10 n ++ rest) = some (Nat.toDigits 10 n, rest) := by
  have hfraction : fraction? rest = some ([], rest) := by
    cases rest with
    | nil => rfl
    | cons c cs => rcases h c rfl with rfl | rfl | rfl <;> rfl
  have hexponent : exponent? rest = some ([], rest) := by
    cases rest with
    | nil => rfl
    | cons c cs => rcases h c rfl with rfl | rfl | rfl <;> rfl
  have hne : Nat.toDigits 10 n ≠ [] := List.length_pos_iff.mp Nat.length_toDigits_pos
  rw [unsigned?, spanDigits_toDigits n h]
  simp only [hfraction, hexponent, List.append_nil]
  rw [if_neg]
  rcases toDigits_short n with hlen | hhead
  · simp [hlen, hne]
  · simp [hhead, hne]

theorem number?_toDigits (n : Nat) {rest : List Char} (h : Delimited rest) :
    number? (Nat.toDigits 10 n ++ rest) = some (ofNat n, rest) := by
  have hsign : ∀ tail, Nat.toDigits 10 n ++ rest = '-' :: tail → False := by
    intro tail heq
    cases hds : Nat.toDigits 10 n with
    | nil => exact List.length_pos_iff.mp Nat.length_toDigits_pos hds
    | cons d ds =>
      rw [hds, List.cons_append, List.cons.injEq] at heq
      have hd : d.isDigit = true :=
        Nat.isDigit_of_mem_toDigits (b := 10) (n := n) (by decide) (by decide) (by simp [hds])
      rw [heq.1] at hd
      cases hd
  rw [number?.eq_2 _ hsign, unsigned?_toDigits n h]
  rfl

/-! ## Values -/

mutual
/-- A value whose numbers are natural and whose strings all have a text. -/
def Written : Json → Prop
  | .null | .bool _ | .str _ => True
  | .num cs => ∃ n, cs = Nat.toDigits 10 n
  | .arr items => WrittenAll items
  | .obj members => WrittenMembers members
  | .garbled => False

def WrittenAll : List Json → Prop
  | [] => True
  | j :: rest => Written j ∧ WrittenAll rest

def WrittenMembers : List (String × Json) → Prop
  | [] => True
  | (_, j) :: rest => Written j ∧ WrittenMembers rest
end

theorem skipSpace_cons {c : Char} (h : isSpace c = false) (cs : List Char) :
    skipSpace (c :: cs) = c :: cs := by
  rw [skipSpace, List.dropWhile_cons_of_neg (by simp [h])]

theorem digit_head (n : Nat) : ∃ d ds, Nat.toDigits 10 n = d :: ds ∧ d.isDigit = true := by
  cases hds : Nat.toDigits 10 n with
  | nil => exact absurd hds (List.length_pos_iff.mp Nat.length_toDigits_pos)
  | cons d ds =>
    exact ⟨d, ds, rfl, Nat.isDigit_of_mem_toDigits (b := 10) (n := n) (by decide) (by decide)
      (by simp [hds])⟩

theorem isSpace_digit {d : Char} (h : d.isDigit = true) : isSpace d = false := by
  rw [isSpace, Bool.eq_false_iff]
  intro hspace
  simp only [Bool.or_eq_true, beq_iff_eq] at hspace
  rcases hspace with ((rfl | rfl) | rfl) | rfl <;> cases h

/-- A written value starts with no white space and with no bracket that closes. -/
theorem renderChars_head {j : Json} (h : Written j) :
    ∃ c cs, renderChars j = c :: cs ∧ isSpace c = false ∧ c ≠ ']' := by
  cases j with
  | num cs =>
    obtain ⟨n, rfl⟩ := h
    obtain ⟨d, ds, hds, hd⟩ := digit_head n
    refine ⟨d, ds, by rw [renderChars, hds], isSpace_digit hd, ?_⟩
    rintro rfl
    cases hd
  | bool b => cases b <;> exact ⟨_, _, by rw [renderChars], rfl, by decide⟩
  | garbled => exact h.elim
  | _ => exact ⟨_, _, by simp only [renderChars, renderString, List.cons_append]; rfl, rfl, by decide⟩

theorem renderItems_head {j : Json} {items : List Json} (h : WrittenAll (j :: items)) :
    ∃ c cs, renderItems (j :: items) = c :: cs ∧ isSpace c = false ∧ c ≠ ']' := by
  obtain ⟨c, cs, hhead, hc⟩ := renderChars_head h.1
  cases items <;> exact ⟨c, _, by simp only [renderItems, hhead, List.cons_append]; rfl, hc⟩

theorem renderMembers_head (key : String) (j : Json) (members : List (String × Json)) :
    ∃ cs, renderMembers ((key, j) :: members) = '"' :: cs := by
  cases members <;>
    exact ⟨_, by simp only [renderMembers, renderString, List.cons_append]; rfl⟩

theorem value?_digit {d : Char} (h : d.isDigit = true) (fuel : Nat) (cs : List Char) :
    value? (fuel + 1) (d :: cs) = number? (d :: cs) := by
  rw [value?, skipSpace_cons (isSpace_digit h)]
  split
  all_goals first | rfl | (next heq => cases heq; cases h)

theorem value?_array {c : Char} (hspace : isSpace c = false) (hc : c ≠ ']') (fuel : Nat)
    (cs : List Char) : value? (fuel + 1) ('[' :: c :: cs) =
      (readItems? fuel (c :: cs)).map fun (items, rest) => (.arr items, rest) := by
  rw [value?, skipSpace_cons (by decide)]
  simp only [skipSpace_cons hspace]
  split
  · next heq =>
    cases heq
    exact absurd rfl hc
  · rfl

theorem value?_object (fuel : Nat) (cs : List Char) : value? (fuel + 1) ('{' :: '"' :: cs) =
    (readMembers? fuel ('"' :: cs)).map fun (members, rest) => (ofMembers members, rest) := rfl

theorem Delimited.comma (cs : List Char) : Delimited (',' :: cs) := by simp [Delimited]

theorem Delimited.bracket (cs : List Char) : Delimited (']' :: cs) := by simp [Delimited]

theorem Delimited.brace (cs : List Char) : Delimited ('}' :: cs) := by simp [Delimited]

mutual
theorem value?_render : (j : Json) → Written j → ∀ fuel rest, (renderChars j).length ≤ fuel →
    Delimited rest → value? fuel (renderChars j ++ rest) = some (j, rest)
  | .null, _, fuel + 1, rest, _, _ => rfl
  | .bool true, _, fuel + 1, rest, _, _ => rfl
  | .bool false, _, fuel + 1, rest, _, _ => rfl
  | .num cs, h, fuel + 1, rest, _, hrest => by
      obtain ⟨n, rfl⟩ := h
      obtain ⟨d, ds, hds, hd⟩ := digit_head n
      have hnumber := number?_toDigits n hrest
      rw [renderChars]
      rw [hds, List.cons_append] at hnumber ⊢
      rw [value?_digit hd, hnumber, ofNat, hds]
  | .str s, _, fuel + 1, rest, _, _ => by
      have hpieces := pieces?_escaped s.toList rest
      simp only [renderChars, renderString, List.cons_append, List.append_assoc, List.nil_append]
      rw [value?, skipSpace_cons (by decide)]
      simp only [hpieces, Option.map_some, ofPieces_char]
  | .arr [], _, fuel + 1, rest, _, _ => by
      rfl
  | .arr (j :: items), h, fuel + 1, rest, hfuel, _ => by
      obtain ⟨c, cs, hhead, hspace, hc⟩ := renderItems_head h
      simp only [renderChars, List.length_cons] at hfuel
      have hitems := readItems?_render j items h fuel rest (by omega)
      rw [renderChars]
      rw [hhead, List.cons_append] at hitems ⊢
      rw [List.cons_append, value?_array hspace hc, hitems, Option.map_some]
  | .obj [], _, fuel + 1, rest, _, _ => rfl
  | .obj ((key, j) :: members), h, fuel + 1, rest, hfuel, _ => by
      obtain ⟨cs, hhead⟩ := renderMembers_head key j members
      simp only [renderChars, List.length_cons] at hfuel
      have hmembers := readMembers?_render key j members h fuel rest (by omega)
      rw [renderChars]
      rw [hhead, List.cons_append] at hmembers ⊢
      rw [List.cons_append, value?_object, hmembers, Option.map_some]
      rfl
  | j, h, 0, _, hfuel, _ => by
      obtain ⟨c, cs, hhead, -⟩ := renderChars_head h
      simp [hhead] at hfuel

theorem readItems?_render : (j : Json) → (items : List Json) → WrittenAll (j :: items) →
    ∀ fuel rest, (renderItems (j :: items)).length ≤ fuel →
    readItems? fuel (renderItems (j :: items) ++ rest) = some (j :: items, rest)
  | j, [], h, fuel + 1, rest, hfuel => by
      simp only [renderItems, List.length_append, List.length_singleton] at hfuel
      have hj := value?_render j h.1 fuel (']' :: rest) (by omega) (.bracket rest)
      simp only [renderItems, List.append_assoc, List.singleton_append, readItems?, hj]
      rw [skipSpace_cons (by decide)]
      rfl
  | j, k :: items, h, fuel + 1, rest, hfuel => by
      simp only [renderItems, List.length_append, List.length_cons] at hfuel
      have hj := value?_render j h.1 fuel (',' :: (renderItems (k :: items) ++ rest)) (by omega)
        (.comma _)
      have hitems := readItems?_render k items h.2 fuel rest (by omega)
      simp only [renderItems, List.append_assoc, List.cons_append, readItems?, hj]
      rw [skipSpace_cons (by decide)]
      simp only [hitems, Option.map_some]
  | j, items, _, 0, _, hfuel => by
      cases items <;> simp [renderItems] at hfuel

theorem readMembers?_render : (key : String) → (j : Json) → (members : List (String × Json)) →
    WrittenMembers ((key, j) :: members) →
    ∀ fuel rest, (renderMembers ((key, j) :: members)).length ≤ fuel →
    readMembers? fuel (renderMembers ((key, j) :: members) ++ rest) =
      some (some ((key, j) :: members), rest)
  | key, j, [], h, fuel + 1, rest, hfuel => by
      simp only [renderMembers, List.length_append, List.length_cons, List.length_nil] at hfuel
      have hkey := pieces?_escaped key.toList (':' :: (renderChars j ++ '}' :: rest))
      have hj := value?_render j h.1 fuel ('}' :: rest) (by omega) (.brace rest)
      simp only [renderMembers, renderString, List.append_assoc, List.cons_append, List.nil_append]
      rw [readMembers?, skipSpace_cons (by decide)]
      simp only [hkey]
      rw [skipSpace_cons (by decide)]
      simp only [hj]
      rw [skipSpace_cons (by decide)]
      simp only [addMember_char]
  | key, j, (key', k) :: members, h, fuel + 1, rest, hfuel => by
      simp only [renderMembers, List.length_append, List.length_cons] at hfuel
      have hkey := pieces?_escaped key.toList
        (':' :: (renderChars j ++ ',' :: (renderMembers ((key', k) :: members) ++ rest)))
      have hj := value?_render j h.1 fuel (',' :: (renderMembers ((key', k) :: members) ++ rest))
        (by omega) (.comma _)
      have hmembers := readMembers?_render key' k members h.2 fuel rest (by omega)
      simp only [renderMembers, renderString, List.append_assoc, List.cons_append, List.nil_append]
        at hkey hj hmembers ⊢
      rw [readMembers?, skipSpace_cons (by decide)]
      simp only [hkey]
      rw [skipSpace_cons (by decide)]
      simp only [hj]
      rw [skipSpace_cons (by decide)]
      simp only [hmembers, Option.map_some, addMember_char]
  | _, _, members, _, 0, _, hfuel => by
      cases members <;> simp [renderMembers, renderString] at hfuel
end

/-- The text of a written value holds that value. -/
theorem parse?_render {j : Json} (h : Written j) : parse? j.render = some j := by
  have hvalue := value?_render j h (2 * (renderChars j).length + 2) [] (by omega) (by simp [Delimited])
  rw [List.append_nil] at hvalue
  simp only [parse?, render, String.toList_ofList, hvalue]
  rfl

end Primer.Json
