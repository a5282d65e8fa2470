import PatrolBot.MapCatalog

/-!
# The two readers of a map

`describe_map` and `static_map.py` read one YAML and one PGM.  What the first accepts the
second accepts too, with the same geometry, thresholds and pixels; the origins are the
same exactly when the numbers that the pattern finds in the text are the coordinates.
-/

namespace PatrolBot.Maps

variable {unicode : Unicode}

/-! ### Fields -/

section

variable {α : Type*} {p : α → Bool} {xs ys : List α}

theorem takeWhile_dropWhile_append (hxs : ∀ x ∈ xs, p x = true)
    (hys : ∀ y ∈ ys.head?, p y = false) :
    (xs ++ ys).takeWhile p = xs ∧ (xs ++ ys).dropWhile p = ys := by
  induction xs with
  | nil =>
    cases ys with
    | nil => exact ⟨rfl, rfl⟩
    | cons y ys =>
      have hy : p y = false := hys y rfl
      simp [hy]
  | cons x xs ih =>
    have hx : p x = true := hxs x List.mem_cons_self
    have hrest := ih fun x hmem => hxs x (List.mem_cons_of_mem _ hmem)
    simp [hx, hrest.1, hrest.2]

/-- A mark that stays keeps what stands behind it from being dropped. -/
theorem dropWhile_append_mark {mark : α} (hmark : p mark = false) :
    (xs ++ mark :: ys).dropWhile p = xs.dropWhile p ++ mark :: ys := by
  induction xs with
  | nil => simp [hmark]
  | cons x xs ih =>
    cases hx : p x with
    | true =>
      rw [List.cons_append, List.dropWhile_cons_of_pos hx, List.dropWhile_cons_of_pos hx, ih]
    | false =>
      have hnot : ¬ p x = true := by simp [hx]
      rw [List.cons_append, List.dropWhile_cons_of_neg hnot, List.dropWhile_cons_of_neg hnot]
      rfl

theorem rdropWhile_append_mark {mark : α} (hmark : p mark = false) :
    (xs ++ mark :: ys).rdropWhile p = xs ++ mark :: ys.rdropWhile p := by
  unfold List.rdropWhile
  rw [List.reverse_append, List.reverse_cons, List.append_assoc, List.singleton_append,
    dropWhile_append_mark hmark]
  simp

end

theorem space_colon (unicode : Unicode) : unicode.space ':' = false :=
  (unicode.space_ascii ':' (by decide)).trans (by decide)

theorem strip_dropWhile (text : List Char) :
    strip unicode (text.dropWhile unicode.space) = strip unicode text := by
  unfold strip
  rw [List.dropWhile_idempotent]

theorem strip_rdropWhile (text : List Char) :
    strip unicode (text.rdropWhile unicode.space) = strip unicode text := by
  unfold strip
  cases hrest : text.dropWhile unicode.space with
  | nil =>
    have hblank : ∀ c ∈ text, unicode.space c = true := List.dropWhile_eq_nil_iff.mp hrest
    rw [List.rdropWhile_eq_nil_iff.mpr hblank]
    rfl
  | cons c rest =>
    have hc : unicode.space c = false := by
      have hhead := List.head?_dropWhile_not unicode.space text
      rw [hrest] at hhead
      simpa using hhead
    have hsplit : text = text.takeWhile unicode.space ++ c :: rest := by
      rw [← hrest, List.takeWhile_append_dropWhile]
    have hfront : (text.takeWhile unicode.space).dropWhile unicode.space = [] := by
      apply List.dropWhile_eq_nil_iff.mpr
      intro c' hmem
      exact List.mem_takeWhile_imp hmem
    rw [hsplit, rdropWhile_append_mark hc, dropWhile_append_mark hc, hfront, List.nil_append]
    have hshort := @rdropWhile_append_mark _ _ [] (rest.rdropWhile unicode.space) _ hc
    have hlong := @rdropWhile_append_mark _ _ [] rest _ hc
    rw [List.nil_append, List.nil_append] at hshort hlong
    rw [hshort, hlong, List.rdropWhile_idempotent]

theorem partition_of_not_mem {text : List Char} (h : ':' ∉ text) :
    (partition ':' text).2 = none := by
  have hall : text.dropWhile (· ≠ ':') = [] := by
    apply List.dropWhile_eq_nil_iff.mpr
    intro c hmem
    exact decide_eq_true fun hcolon => h (hcolon ▸ hmem)
  simp only [partition, hall]

theorem partition_append {front rest : List Char} (h : ':' ∉ front) :
    partition ':' (front ++ ':' :: rest) = (front, some rest) := by
  obtain ⟨htake, hdrop⟩ := @takeWhile_dropWhile_append _
    (fun c => decide (c ≠ ':')) front (':' :: rest)
    (fun c hmem => decide_eq_true fun hcolon => h (hcolon ▸ hmem))
    (fun c hc => by obtain rfl : ':' = c := Option.some.inj hc; rfl)
  simp only [partition, htake, hdrop]

/-- To strip a line before it is split changes neither its key nor its value. -/
theorem readLine_eq_describeLine (fields : Fields) (line : List Char) :
    readLine unicode fields line = describeLine unicode fields line := by
  unfold readLine describeLine
  generalize line.takeWhile (· ≠ '#') = text
  by_cases hcolon : ':' ∈ text
  · obtain ⟨front, rest, rfl, hfront⟩ := List.eq_append_cons_of_mem hcolon
    have hstripped : strip unicode (front ++ ':' :: rest) =
        front.dropWhile unicode.space ++ ':' :: rest.rdropWhile unicode.space := by
      rw [strip, dropWhile_append_mark (space_colon unicode),
        rdropWhile_append_mark (space_colon unicode)]
    have hlater : ':' ∉ front.dropWhile unicode.space :=
      fun hmem => hfront (List.dropWhile_subset _ hmem)
    simp only [hstripped, partition_append hlater, partition_append hfront,
      strip_dropWhile, strip_rdropWhile]
  · have hstripped : ':' ∉ strip unicode text := fun hmem =>
      hcolon (List.dropWhile_subset _ ((List.rdropWhile_prefix _ _).subset hmem))
    have hnone := partition_of_not_mem hcolon
    have hnone' := partition_of_not_mem hstripped
    cases hread : partition ':' (strip unicode text) with
    | mk key value =>
      cases hdescribed : partition ':' text with
      | mk key' value' =>
        rw [hread] at hnone'
        rw [hdescribed] at hnone
        simp only at hnone hnone'
        simp only [hread, hnone, hnone']

/-! ### Numbers in a text -/

theorem toNat_lt_of_isDigit {c : Char} (h : c.isDigit = true) : c.toNat < 128 := by
  simp only [Char.isDigit, Bool.and_eq_true, decide_eq_true_eq] at h
  have hhigh : c.toNat ≤ 57 := h.2
  omega

theorem isDigit_of_ascii (unicode : Unicode) {c : Char} (hc : c.toNat < 128) :
    unicode.isDigit c = c.isDigit := by
  unfold Unicode.isDigit
  rw [unicode.digit_ascii c hc]
  cases c.isDigit with
  | true => rfl
  | false => rfl

theorem isDigit_of_isDigit (unicode : Unicode) {c : Char} (h : c.isDigit = true) :
    unicode.isDigit c = true := (isDigit_of_ascii unicode (toNat_lt_of_isDigit h)).trans h

/-- A number without an exponent: a sign, digits, a point and digits. -/
structure Plain (minus whole point fraction : List Char) : Prop where
  minus : minus = [] ∨ minus = ['-']
  some : whole ≠ []
  whole : ∀ c ∈ whole, c.isDigit = true
  point : point = [] ∧ fraction = [] ∨ point = ['.']
  fraction : ∀ c ∈ fraction, c.isDigit = true

/-- The exponent of a number, or none. -/
def Exponent (exponent : List Char) : Prop :=
  exponent = [] ∨ ∃ c minus digits, (c = 'e' ∨ c = 'E') ∧ (minus = [] ∨ minus = ['-']) ∧
    digits ≠ [] ∧ (∀ d ∈ digits, d.isDigit = true) ∧ exponent = c :: (minus ++ digits)

/-- No number goes on with what follows. -/
def Ended (rest : List Char) : Prop :=
  ∀ c ∈ rest.head?, c.toNat < 128 ∧ c.isDigit = false ∧ c ≠ '.' ∧ c ≠ 'e' ∧ c ≠ 'E' ∧ c ≠ '_'

variable {minus whole point fraction exponent rest text digits : List Char}

theorem Ended.not_digit (h : Ended rest) : ∀ c ∈ rest.head?, unicode.isDigit c = false := by
  intro c hc
  obtain ⟨hascii, hdigit, -⟩ := h c hc
  exact (isDigit_of_ascii unicode hascii).trans hdigit

theorem minusAt_of_ne (h : ∀ c ∈ text.head?, c ≠ '-') : minusAt text = ([], text) := by
  cases text with
  | nil => rfl
  | cons c text =>
    have hc : c ≠ '-' := h c rfl
    unfold minusAt
    split
    · rename_i hsame
      exact absurd (List.cons.inj hsame).1 hc
    · rfl

theorem pointAt_of_ne (h : ∀ c ∈ text.head?, c ≠ '.') : pointAt text = ([], text) := by
  cases text with
  | nil => rfl
  | cons c text =>
    have hc : c ≠ '.' := h c rfl
    unfold pointAt
    split
    · rename_i hsame
      exact absurd (List.cons.inj hsame).1 hc
    · rfl

theorem minusAt_append (hminus : minus = [] ∨ minus = ['-']) (hsome : whole ≠ [])
    (hwhole : ∀ c ∈ whole, c.isDigit = true) :
    minusAt (minus ++ (whole ++ rest)) = (minus, whole ++ rest) := by
  rcases hminus with rfl | rfl
  · apply minusAt_of_ne
    intro c hc
    obtain ⟨d, digits, rfl⟩ := List.exists_cons_of_ne_nil hsome
    obtain rfl : d = c := Option.some.inj hc
    rintro rfl
    exact absurd (hwhole '-' List.mem_cons_self) (by decide)
  · rfl

/-- What the pattern finds at the front of a number, whatever follows. -/
theorem numberAt_append (h : Plain minus whole point fraction)
    (hrest : ∀ c ∈ rest.head?, unicode.isDigit c = false)
    (hpoint : point = [] → ∀ c ∈ rest.head?, c ≠ '.') :
    numberAt unicode (minus ++ (whole ++ (point ++ (fraction ++ rest)))) =
      some (minus ++ (whole ++ (point ++ (fraction ++ exponentAt unicode rest)))) := by
  have hdigits : ∀ c ∈ whole, unicode.isDigit c = true :=
    fun c hmem => isDigit_of_isDigit unicode (h.whole c hmem)
  have hfraction : ∀ c ∈ fraction, unicode.isDigit c = true :=
    fun c hmem => isDigit_of_isDigit unicode (h.fraction c hmem)
  have hfractionEnds := takeWhile_dropWhile_append hfraction hrest
  unfold numberAt
  rw [minusAt_append h.minus h.some h.whole]
  rcases h.point with ⟨rfl, rfl⟩ | rfl
  · have hwholeEnds := takeWhile_dropWhile_append hdigits hrest
    have hno := pointAt_of_ne (hpoint rfl)
    simp only [List.nil_append] at hfractionEnds ⊢
    simp only [hwholeEnds, if_neg h.some, hno, hfractionEnds, List.nil_append]
  · have hwholeEnds := @takeWhile_dropWhile_append _ _ _ ('.' :: (fraction ++ rest)) hdigits
      (fun c hc => by
        obtain rfl : '.' = c := Option.some.inj hc
        exact (isDigit_of_ascii unicode (by decide)).trans (by decide))
    simp only [List.singleton_append, hwholeEnds, if_neg h.some, pointAt, hfractionEnds]

theorem exponentAt_ended (h : ∀ c ∈ rest.head?, c ≠ 'e' ∧ c ≠ 'E') :
    exponentAt unicode rest = [] := by
  cases rest with
  | nil => rfl
  | cons c rest =>
    have hc := h c rfl
    rw [exponentAt, if_neg (fun hmark => hmark.elim hc.1 hc.2)]

theorem exponentAt_plus {c : Char} (hc : c = 'e' ∨ c = 'E') :
    exponentAt unicode (c :: '+' :: rest) = [] := by
  have hplus : unicode.isDigit '+' = false :=
    (isDigit_of_ascii unicode (by decide)).trans (by decide)
  rw [exponentAt, if_pos hc, minusAt_of_ne (fun c hc => by
    obtain rfl : '+' = c := Option.some.inj hc
    decide)]
  simp [hplus]

theorem exponentAt_append (h : Exponent exponent) (hrest : Ended rest) :
    exponentAt unicode (exponent ++ rest) = exponent := by
  rcases h with rfl | ⟨c, minus, digits, hc, hminus, hsome, hdigits, rfl⟩
  · apply exponentAt_ended
    intro c hc
    obtain ⟨-, -, -, hlow, hhigh, -⟩ := hrest c hc
    exact ⟨hlow, hhigh⟩
  · have hends := takeWhile_dropWhile_append
      (fun c hmem => isDigit_of_isDigit unicode (hdigits c hmem)) hrest.not_digit
    rw [List.cons_append, List.append_assoc, exponentAt, if_pos hc,
      minusAt_append hminus hsome hdigits]
    simp only [hends, if_neg hsome]

/-! ### What the pattern finds -/

/-- Of a text the pattern finds these numbers, and those of the rest. -/
def Finds (unicode : Unicode) (text : List Char) (found : List (List Char)) (rest : List Char) :
    Prop :=
  numbersFrom unicode 0 text = found ++ numbersFrom unicode 0 rest

variable {mid : List Char} {found later : List (List Char)}

theorem Finds.refl (text : List Char) : Finds unicode text [] text := rfl

theorem Finds.trans (h : Finds unicode text found mid) (hlater : Finds unicode mid later rest) :
    Finds unicode text (found ++ later) rest := by
  unfold Finds at h hlater ⊢
  rw [h, hlater, List.append_assoc]

theorem numbersFrom_skip (unicode : Unicode) (skipped rest : List Char) :
    numbersFrom unicode skipped.length (skipped ++ rest) = numbersFrom unicode 0 rest := by
  induction skipped with
  | nil => rfl
  | cons c skipped ih => exact ih

theorem finds_number (hsome : text ≠ []) (h : numberAt unicode (text ++ rest) = some text) :
    Finds unicode (text ++ rest) [text] rest := by
  obtain ⟨c, number, rfl⟩ := List.exists_cons_of_ne_nil hsome
  unfold Finds
  rw [List.cons_append] at h ⊢
  rw [numbersFrom, h]
  simp only [List.length_cons, Nat.add_sub_cancel, numbersFrom_skip, List.singleton_append]

/-- A character that begins no number. -/
def Other (c : Char) : Prop := c.toNat < 128 ∧ c.isDigit = false ∧ c ≠ '-'

instance decidableOther (c : Char) : Decidable (Other c) :=
  inferInstanceAs (Decidable (_ ∧ _ ∧ _))

theorem finds_other {c : Char} (hc : Other c) : Finds unicode (c :: rest) [] rest := by
  obtain ⟨hascii, hdigit, hminus⟩ := hc
  have hnot : unicode.isDigit c = false := (isDigit_of_ascii unicode hascii).trans hdigit
  have hnone : numberAt unicode (c :: rest) = none := by
    unfold numberAt
    rw [minusAt_of_ne (fun c' hc' => by
      obtain rfl : c = c' := Option.some.inj hc'
      exact hminus)]
    simp [hnot]
  unfold Finds
  rw [numbersFrom, hnone]
  rfl

theorem finds_others (hothers : ∀ c ∈ text, Other c) : Finds unicode (text ++ rest) [] rest := by
  induction text with
  | nil => exact Finds.refl rest
  | cons c text ih =>
    exact (finds_other (hothers c List.mem_cons_self)).trans
      (ih fun c hmem => hothers c (List.mem_cons_of_mem _ hmem))

theorem other_of_isJsonBlank {c : Char} (h : isJsonBlank c = true) : Other c := by
  simp only [isJsonBlank, Bool.or_eq_true, beq_iff_eq] at h
  rcases h with ((rfl | rfl) | rfl) | rfl
  all_goals decide

theorem finds_blanks (unicode : Unicode) (text : List Char) :
    Finds unicode text [] (text.dropWhile isJsonBlank) := by
  have hblank : ∀ c ∈ text.takeWhile isJsonBlank, Other c :=
    fun c hmem => other_of_isJsonBlank (List.mem_takeWhile_imp hmem)
  have hskip := @finds_others unicode (text.dropWhile isJsonBlank) _ hblank
  rwa [List.takeWhile_append_dropWhile] at hskip

/-- A mark is found after white space. -/
theorem expect_eq_some {mark : Char} (h : expect mark text = some rest) :
    text.dropWhile isJsonBlank = mark :: rest := by
  unfold expect at h
  split at h
  · cases h
  · rename_i c after hdrop
    split at h
    · rename_i hmark
      obtain rfl := Option.some.inj h
      rw [hdrop, hmark]
    · cases h

theorem finds_expect {mark : Char} (hmark : Other mark) (h : expect mark text = some rest) :
    Finds unicode text [] rest := by
  have hskip := finds_blanks unicode text
  rw [expect_eq_some h] at hskip
  exact hskip.trans (finds_other hmark)

/-- White space or the mark follows. -/
theorem ended_of_expect {mark : Char} (hmark : mark = ',' ∨ mark = ']')
    (h : expect mark text = some rest) : Ended text := by
  intro c hc
  obtain ⟨after, rfl⟩ : ∃ after, text = c :: after := by
    cases text with
    | nil => cases hc
    | cons d after => exact ⟨after, by rw [Option.some.inj hc]⟩
  by_cases hblank : isJsonBlank c = true
  · simp only [isJsonBlank, Bool.or_eq_true, beq_iff_eq] at hblank
    rcases hblank with ((rfl | rfl) | rfl) | rfl
    all_goals decide
  · have hdrop := expect_eq_some h
    rw [List.dropWhile_cons_of_neg hblank] at hdrop
    obtain rfl : c = mark := (List.cons.inj hdrop).1
    rcases hmark with rfl | rfl
    all_goals decide

/-! ### Coordinates -/

theorem minusAt_eq (text : List Char) :
    text = (minusAt text).1 ++ (minusAt text).2 ∧
      ((minusAt text).1 = [] ∨ (minusAt text).1 = ['-']) := by
  unfold minusAt
  split
  · exact ⟨rfl, Or.inr rfl⟩
  · exact ⟨rfl, Or.inl rfl⟩

theorem mem_takeWhile_isDigit (text : List Char) :
    ∀ c ∈ text.takeWhile Char.isDigit, c.isDigit = true := fun _ hmem => List.mem_takeWhile_imp hmem

theorem integerGroup_eq {integer : List Char} (h : integerGroup text = some (integer, rest)) :
    ∃ minus whole, (minus = [] ∨ minus = ['-']) ∧ whole ≠ [] ∧
      (∀ c ∈ whole, c.isDigit = true) ∧ integer = minus ++ whole ∧ text = integer ++ rest := by
  obtain ⟨htext, hminus⟩ := minusAt_eq text
  unfold integerGroup at h
  simp only at h
  split at h
  · cases h
  · rename_i c after hafter
    rw [hafter] at htext
    split at h
    · rename_i hzero
      obtain ⟨rfl, rfl⟩ := Prod.mk.inj (Option.some.inj h)
      refine ⟨_, ['0'], hminus, List.cons_ne_nil _ _, ?_, rfl, ?_⟩
      · intro d hd
        rw [List.mem_singleton.mp hd]
        decide
      · rw [List.append_assoc, ← hzero]
        exact htext
    · split at h
      · rename_i hdigit
        obtain ⟨rfl, rfl⟩ := Prod.mk.inj (Option.some.inj h)
        refine ⟨_, _, hminus, ?_, mem_takeWhile_isDigit _, rfl, ?_⟩
        · rw [List.takeWhile_cons_of_pos hdigit]
          exact List.cons_ne_nil _ _
        · rw [List.append_assoc, List.takeWhile_append_dropWhile]
          exact htext
      · cases h

theorem fracGroup_eq (text : List Char) :
    text = (fracGroup text).1 ++ (fracGroup text).2 ∧
      ((fracGroup text).1 = [] ∨ ∃ digits, (∀ c ∈ digits, c.isDigit = true) ∧
        (fracGroup text).1 = '.' :: digits) := by
  unfold fracGroup
  split
  · simp only
    split
    · exact ⟨rfl, Or.inl rfl⟩
    · refine ⟨?_, Or.inr ⟨_, mem_takeWhile_isDigit _, rfl⟩⟩
      rw [List.cons_append, List.takeWhile_append_dropWhile]
  · exact ⟨rfl, Or.inl rfl⟩

theorem signAt_eq (text : List Char) :
    text = (signAt text).1 ++ (signAt text).2 ∧
      ((signAt text).1 = [] ∨ (signAt text).1 = ['-'] ∨ (signAt text).1 = ['+']) := by
  unfold signAt
  split
  · exact ⟨rfl, Or.inr (Or.inl rfl)⟩
  · exact ⟨rfl, Or.inr (Or.inr rfl)⟩
  · exact ⟨rfl, Or.inl rfl⟩

/-- An exponent with a plus sign. -/
def PlusExponent (c : Char) (digits exp : List Char) : Prop :=
  (c = 'e' ∨ c = 'E') ∧ digits ≠ [] ∧ (∀ d ∈ digits, d.isDigit = true) ∧ exp = c :: '+' :: digits

theorem expGroup_eq (text : List Char) :
    text = (expGroup text).1 ++ (expGroup text).2 ∧
      (Exponent (expGroup text).1 ∨ ∃ c digits, PlusExponent c digits (expGroup text).1) := by
  cases text with
  | nil => exact ⟨rfl, Or.inl (Or.inl rfl)⟩
  | cons c text =>
    obtain ⟨htext, hsign⟩ := signAt_eq text
    simp only [expGroup]
    split
    · rename_i hc
      split
      · exact ⟨rfl, Or.inl (Or.inl rfl)⟩
      · rename_i hsome
        constructor
        · rw [List.cons_append, List.append_assoc, List.takeWhile_append_dropWhile, ← htext]
        · have hdigits := mem_takeWhile_isDigit (signAt text).2
          rcases hsign with hnone | hminus | hplus
          · exact Or.inl (Or.inr ⟨c, _, _, hc, Or.inl hnone, hsome, hdigits, rfl⟩)
          · exact Or.inl (Or.inr ⟨c, _, _, hc, Or.inr hminus, hsome, hdigits, rfl⟩)
          · right
            refine ⟨c, _, hc, hsome, hdigits, ?_⟩
            rw [hplus]
            rfl
    · exact ⟨rfl, Or.inl (Or.inl rfl)⟩

/-- The groups of a number token. -/
structure Shaped (token : NumberToken) (minus whole point fraction : List Char) : Prop where
  plain : Plain minus whole point fraction
  integer : token.integer = minus ++ whole
  frac : token.frac = point ++ fraction
  exp : Exponent token.exp ∨ ∃ c digits, PlusExponent c digits token.exp

/-- A coordinate that is read is a Boolean or a number of that shape. -/
theorem coordinateAt_eq {coordinate : Coordinate}
    (h : coordinateAt text = some (coordinate, rest)) :
    (∃ value, coordinate = .bool value ∧
        (text = "true".toList ++ rest ∨ text = "false".toList ++ rest)) ∨
      ∃ token minus whole point fraction, coordinate = .number token ∧
        text = token.text ++ rest ∧ Shaped token minus whole point fraction := by
  unfold coordinateAt at h
  split at h
  · rename_i htrue
    obtain ⟨hvalue, hrest⟩ := Prod.mk.inj (Option.some.inj h)
    obtain ⟨after, rfl⟩ := htrue
    exact Or.inl ⟨true, hvalue.symm, Or.inl (by rw [← hrest]; rfl)⟩
  split at h
  · rename_i hfalse
    obtain ⟨hvalue, hrest⟩ := Prod.mk.inj (Option.some.inj h)
    obtain ⟨after, rfl⟩ := hfalse
    exact Or.inl ⟨false, hvalue.symm, Or.inr (by rw [← hrest]; rfl)⟩
  · right
    simp only [Option.bind_eq_bind, Option.bind_eq_some_iff] at h
    obtain ⟨⟨integer, after⟩, hinteger, h⟩ := h
    simp only at h
    obtain ⟨hcoordinate, hrest⟩ := Prod.mk.inj (Option.some.inj h)
    obtain ⟨minus, whole, hminus, hsome, hwhole, rfl, htext⟩ := integerGroup_eq hinteger
    obtain ⟨hafter, hfrac⟩ := fracGroup_eq after
    obtain ⟨hlast, hexp⟩ := expGroup_eq (fracGroup after).2
    have hread : text = (NumberToken.text
        ⟨minus ++ whole, (fracGroup after).1, (expGroup (fracGroup after).2).1⟩) ++ rest := by
      have hgroups : (fracGroup after).1 ++ ((expGroup (fracGroup after).2).1 ++ rest) = after := by
        rw [← hrest, ← hlast, ← hafter]
      simp only [NumberToken.text, List.append_assoc] at htext ⊢
      rw [hgroups]
      exact htext
    rcases hfrac with hnone | ⟨digits, hdigits, hpoint⟩
    · exact ⟨_, minus, whole, [], [], hcoordinate.symm, hread,
        ⟨hminus, hsome, hwhole, Or.inl ⟨rfl, rfl⟩, fun c hmem => absurd hmem List.not_mem_nil⟩,
        rfl, hnone, hexp⟩
    · exact ⟨_, minus, whole, ['.'], digits, hcoordinate.symm, hread,
        ⟨hminus, hsome, hwhole, Or.inr rfl, hdigits⟩, rfl, hpoint, hexp⟩

/-- The digits of an exponent with a plus sign. -/
def plusDigits : List Char → Option (List Char)
  | _ :: '+' :: digits => some digits
  | _ => none

/-- The numbers that the pattern finds in a coordinate: a plus sign ends one and begins
    another, and a Boolean has none. -/
def spells : Coordinate → List (List Char)
  | .bool _ => []
  | .number token =>
    match plusDigits token.exp with
    | some digits => [token.integer ++ token.frac, digits]
    | none => [token.text]

theorem plusDigits_exponent (h : Exponent exponent) : plusDigits exponent = none := by
  unfold plusDigits
  split
  · rename_i c digits
    exfalso
    rcases h with hnone | ⟨c', minus, digits', -, hminus, hsome, hdigits, hexp⟩
    · cases hnone
    · obtain ⟨d, rest, rfl⟩ := List.exists_cons_of_ne_nil hsome
      rcases hminus with rfl | rfl
      · obtain rfl : '+' = d := (List.cons.inj (List.cons.inj hexp).2).1
        exact absurd (hdigits '+' List.mem_cons_self) (by decide)
      · exact absurd (List.cons.inj (List.cons.inj hexp).2).1 (by decide)
  · rfl

theorem spells_plain {token : NumberToken} (h : Exponent token.exp) :
    spells (.number token) = [token.text] := by
  simp only [spells, plusDigits_exponent h]

theorem spells_plus {token : NumberToken} {c : Char} (h : PlusExponent c digits token.exp) :
    spells (.number token) = [token.integer ++ token.frac, digits] := by
  simp only [spells, h.2.2.2, plusDigits]

theorem other_of_exponent {c : Char} (hc : c = 'e' ∨ c = 'E') : Other c := by
  rcases hc with rfl | rfl
  · decide
  · decide

/-- A token without a plus sign is one number for the pattern. -/
theorem numberAt_token {token : NumberToken} (h : Shaped token minus whole point fraction)
    (hexp : Exponent token.exp) (hrest : Ended rest) :
    numberAt unicode (token.text ++ rest) = some token.text := by
  have hends : ∀ c ∈ (token.exp ++ rest).head?, unicode.isDigit c = false ∧ c ≠ '.' := by
    intro c hc
    rcases hexp with hnone | ⟨mark, minus, digits, hmark, -, -, -, hsome⟩
    · rw [hnone] at hc
      exact ⟨hrest.not_digit c hc, (hrest c hc).2.2.1⟩
    · rw [hsome] at hc
      obtain rfl : mark = c := Option.some.inj hc
      have hother := other_of_exponent hmark
      refine ⟨(isDigit_of_ascii unicode hother.1).trans hother.2.1, ?_⟩
      rintro rfl
      rcases hmark with hlow | hhigh
      · exact absurd hlow (by decide)
      · exact absurd hhigh (by decide)
  have htext : token.text ++ rest =
      minus ++ (whole ++ (point ++ (fraction ++ (token.exp ++ rest)))) := by
    simp only [NumberToken.text, h.integer, h.frac, List.append_assoc]
  rw [htext, numberAt_append h.plain (fun c hc => (hends c hc).1) (fun _ c hc => (hends c hc).2),
    exponentAt_append hexp hrest]
  simp only [NumberToken.text, h.integer, h.frac, List.append_assoc]

theorem finds_digits (hsome : digits ≠ []) (hdigits : ∀ d ∈ digits, d.isDigit = true)
    (hrest : Ended rest) : Finds unicode (digits ++ rest) [digits] rest := by
  apply finds_number hsome
  have hplain : Plain [] digits [] [] :=
    ⟨Or.inl rfl, hsome, hdigits, Or.inl ⟨rfl, rfl⟩, fun c hmem => absurd hmem List.not_mem_nil⟩
  have hnumber := @numberAt_append unicode _ _ _ _ _ hplain hrest.not_digit
    (fun _ c hc => (hrest c hc).2.2.1)
  have hnone := @exponentAt_ended unicode rest
    (fun c hc => ⟨(hrest c hc).2.2.2.1, (hrest c hc).2.2.2.2.1⟩)
  simpa only [List.nil_append, List.append_nil, hnone] using hnumber

/-- A plus sign ends a number, and its digits are the next. -/
theorem finds_plus {token : NumberToken} {c : Char}
    (h : Shaped token minus whole point fraction) (hexp : PlusExponent c digits token.exp)
    (hrest : Ended rest) :
    Finds unicode (token.text ++ rest) [token.integer ++ token.frac, digits] rest := by
  obtain ⟨hc, hsome, hdigits, hplus⟩ := hexp
  have hother := other_of_exponent hc
  have hfront : token.integer ++ token.frac = minus ++ (whole ++ (point ++ fraction)) := by
    simp only [h.integer, h.frac, List.append_assoc]
  have hne : token.integer ++ token.frac ≠ [] := by
    intro hnil
    rw [h.integer] at hnil
    exact h.plain.some (List.append_eq_nil_iff.mp (List.append_eq_nil_iff.mp hnil).1).2
  have hmantissa : Finds unicode ((token.integer ++ token.frac) ++ (c :: '+' :: (digits ++ rest)))
      [token.integer ++ token.frac] (c :: '+' :: (digits ++ rest)) := by
    apply finds_number hne
    have hnumber := @numberAt_append unicode _ _ _ _ (c :: '+' :: (digits ++ rest)) h.plain
      (fun d hd => by
        obtain rfl : c = d := Option.some.inj hd
        exact (isDigit_of_ascii unicode hother.1).trans hother.2.1)
      (fun _ d hd => by
        obtain rfl : c = d := Option.some.inj hd
        rcases hc with rfl | rfl
        · decide
        · decide)
    rw [exponentAt_plus hc, List.append_nil] at hnumber
    rw [hfront]
    simpa only [List.append_assoc] using hnumber
  have htext : token.text ++ rest =
      (token.integer ++ token.frac) ++ (c :: '+' :: (digits ++ rest)) := by
    simp only [NumberToken.text, hplus, List.append_assoc, List.cons_append]
  rw [htext]
  exact hmantissa.trans ((finds_other hother).trans
    ((finds_other (by decide)).trans (finds_digits hsome hdigits hrest)))

/-- Of a coordinate the pattern finds what it spells. -/
theorem finds_coordinate {coordinate : Coordinate}
    (h : coordinateAt text = some (coordinate, rest)) (hrest : Ended rest) :
    Finds unicode text (spells coordinate) rest := by
  rcases coordinateAt_eq h with ⟨value, rfl, htext⟩ |
    ⟨token, minus, whole, point, fraction, rfl, rfl, hshape⟩
  · rcases htext with rfl | rfl
    · have htail : Finds unicode ('u' :: 'e' :: rest) [] rest :=
        (finds_other (by decide)).trans (finds_other (by decide))
      exact (finds_other (by decide)).trans ((finds_other (by decide)).trans htail)
    · have htail : Finds unicode ('l' :: 's' :: 'e' :: rest) [] rest :=
        (finds_other (by decide)).trans ((finds_other (by decide)).trans (finds_other (by decide)))
      exact (finds_other (by decide)).trans ((finds_other (by decide)).trans htail)
  · rcases hshape.exp with hexp | ⟨c, digits, hexp⟩
    · rw [spells_plain hexp]
      apply finds_number _ (numberAt_token hshape hexp hrest)
      intro hnil
      rw [NumberToken.text, hshape.integer] at hnil
      exact hshape.plain.some (List.append_eq_nil_iff.mp (List.append_eq_nil_iff.mp hnil).1).2
    · rw [spells_plus hexp]
      exact finds_plus hshape hexp hrest

/-- **The pattern on an origin.**  It finds what the coordinates spell. -/
theorem numbersFrom_origin {coordinates : List Coordinate}
    (h : loadsOrigin text = some coordinates) :
    numbersFrom unicode 0 text = coordinates.flatMap spells := by
  unfold loadsOrigin at h
  simp only [Option.bind_eq_bind, Option.bind_eq_some_iff] at h
  obtain ⟨a, hopen, ⟨x, b⟩, hx, c, hcomma, ⟨y, d⟩, hy, e, hcomma', ⟨yaw, f⟩, hyaw, g, hclose,
    h⟩ := h
  simp only at hcomma hcomma' hclose h
  split at h
  · rename_i hblank
    obtain rfl := Option.some.inj h
    have hfirst := (finds_blanks unicode a).trans
      (finds_coordinate hx (ended_of_expect (Or.inl rfl) hcomma))
    have hsecond := (finds_blanks unicode c).trans
      (finds_coordinate hy (ended_of_expect (Or.inl rfl) hcomma'))
    have hthird := (finds_blanks unicode e).trans
      (finds_coordinate hyaw (ended_of_expect (Or.inr rfl) hclose))
    have hall := (finds_expect (by decide) hopen).trans (hfirst.trans
      ((finds_expect (by decide) hcomma).trans (hsecond.trans
        ((finds_expect (by decide) hcomma').trans (hthird.trans
          ((finds_expect (by decide) hclose).trans (finds_blanks unicode g)))))))
    rw [hblank] at hall
    unfold Finds at hall
    simpa [numbersFrom] using hall
  · cases h

/-! ### Numbers that are found are numbers for `float` -/

theorem digitPart_ended (h : ∀ c ∈ rest.head?, unicode.isDigit c = false) :
    digitPart unicode rest = ([], rest) := by
  cases rest with
  | nil => rfl
  | cons c rest =>
    have hc : unicode.digit c = none := by
      have hnot := h c rfl
      unfold Unicode.isDigit at hnot
      exact Option.not_isSome_iff_eq_none.mp (by simp [hnot])
    unfold digitPart
    rw [hc]

theorem digitPart_cons {c : Char} {value : Nat} (hc : unicode.digit c = some value)
    (htext : ∀ d ∈ text.head?, d ≠ '_') :
    digitPart unicode (c :: text) =
      (value :: (digitPart unicode text).1, (digitPart unicode text).2) := by
  rw [digitPart, hc]
  simp only
  split
  · exact absurd rfl (htext '_' rfl)
  · rfl

theorem digitPart_append (hdigits : ∀ c ∈ digits, c.isDigit = true)
    (hrest : ∀ c ∈ rest.head?, unicode.isDigit c = false ∧ c ≠ '_') :
    ∃ values, digitPart unicode (digits ++ rest) = (values, rest) ∧
      values.length = digits.length := by
  induction digits with
  | nil => exact ⟨[], digitPart_ended fun c hc => (hrest c hc).1, rfl⟩
  | cons c digits ih =>
    obtain ⟨values, hvalues, hlength⟩ := ih fun c hmem => hdigits c (List.mem_cons_of_mem _ hmem)
    obtain ⟨value, hvalue⟩ := Option.isSome_iff_exists.mp
      (isDigit_of_isDigit unicode (hdigits c List.mem_cons_self))
    have hnext : ∀ d ∈ (digits ++ rest).head?, d ≠ '_' := by
      intro d hd
      cases digits with
      | nil => exact (hrest d hd).2
      | cons d' digits =>
        obtain rfl : d' = d := Option.some.inj hd
        rintro rfl
        exact absurd (hdigits '_' (by simp)) (by decide)
    refine ⟨value :: values, ?_, by rw [List.length_cons, hlength, List.length_cons]⟩
    rw [List.cons_append, digitPart_cons hvalue hnext, hvalues]

theorem not_space_of_isDigit {c : Char} (h : c.isDigit = true) : unicode.space c = false :=
  unicode.not_space_of_digit c (isDigit_of_isDigit unicode h)

theorem strip_of_not_space (h : ∀ c ∈ text, unicode.space c = false) :
    strip unicode text = text := by
  have hfront : text.dropWhile unicode.space = text := by
    cases text with
    | nil => rfl
    | cons c text =>
      have hc := h c List.mem_cons_self
      rw [List.dropWhile_cons_of_neg (by simp [hc])]
  rw [strip, hfront]
  apply List.rdropWhile_eq_self_iff.mpr
  intro hne
  simp [h _ (List.getLast_mem hne)]

theorem signed_of_isDigit (hsome : digits ≠ []) (hdigits : ∀ c ∈ digits, c.isDigit = true) :
    signed (digits ++ rest) = (false, digits ++ rest) := by
  obtain ⟨c, digits, rfl⟩ := List.exists_cons_of_ne_nil hsome
  have hc := hdigits c List.mem_cons_self
  have hminus : c ≠ '-' := by
    rintro rfl
    exact absurd hc (by decide)
  have hplus : c ≠ '+' := by
    rintro rfl
    exact absurd hc (by decide)
  rw [List.cons_append]
  unfold signed
  split
  · rename_i hsame
    exact absurd (List.cons.inj hsame).1 hminus
  · rename_i hsame
    exact absurd (List.cons.inj hsame).1 hplus
  · rfl

/-- A sign and digits, to `float` and to `int`. -/
theorem signed_minus (hminus : minus = [] ∨ minus = ['-']) (hsome : digits ≠ [])
    (hdigits : ∀ c ∈ digits, c.isDigit = true) :
    ∃ negative, signed (minus ++ (digits ++ rest)) = (negative, digits ++ rest) := by
  rcases hminus with rfl | rfl
  · refine ⟨false, ?_⟩
    rw [List.nil_append]
    exact signed_of_isDigit hsome hdigits
  · exact ⟨true, rfl⟩

theorem Exponent.head_ne (h : Exponent exponent) :
    ∀ c ∈ exponent.head?, unicode.isDigit c = false ∧ c ≠ '_' ∧ c ≠ '.' := by
  intro c hc
  rcases h with rfl | ⟨mark, minus, digits, hmark, -, -, -, rfl⟩
  · cases hc
  · obtain rfl : mark = c := Option.some.inj hc
    rcases hmark with rfl | rfl
    · exact ⟨(isDigit_of_ascii unicode (by decide)).trans (by decide), by decide, by decide⟩
    · exact ⟨(isDigit_of_ascii unicode (by decide)).trans (by decide), by decide, by decide⟩

theorem exponentPart_isSome (h : Exponent exponent) : (exponentPart unicode exponent).isSome := by
  rcases h with rfl | ⟨c, minus, digits, hc, hminus, hsome, hdigits, rfl⟩
  · rfl
  · obtain ⟨values, hvalues, hlength⟩ := @digitPart_append unicode [] _ hdigits
      (fun c hc => by cases hc)
    obtain ⟨negative, hsigned⟩ := @signed_minus _ [] _ hminus hsome hdigits
    rw [List.append_nil] at hvalues hsigned
    obtain ⟨value, more, rfl⟩ := List.exists_cons_of_length_pos (l := values)
      (by rw [hlength]; exact List.length_pos_iff.mpr hsome)
    rw [exponentPart, if_pos hc, hsigned]
    simp only [hvalues]
    cases negative with
    | true => rfl
    | false => rfl

/-- `float` takes a decimal number of that shape. -/
theorem decimal_isSome (negative : Bool) (h : Plain minus whole point fraction)
    (hexp : Exponent exponent) :
    (decimal unicode negative (whole ++ (point ++ (fraction ++ exponent)))).isSome := by
  have hends := @Exponent.head_ne unicode _ hexp
  obtain ⟨values, hvalues, hlength⟩ : ∃ values,
      digitPart unicode (whole ++ (point ++ (fraction ++ exponent))) =
        (values, point ++ (fraction ++ exponent)) ∧ values.length = whole.length := by
    apply digitPart_append h.whole
    intro c hc
    rcases h.point with ⟨rfl, rfl⟩ | rfl
    · exact ⟨(hends c hc).1, (hends c hc).2.1⟩
    · obtain rfl : '.' = c := Option.some.inj hc
      exact ⟨(isDigit_of_ascii unicode (by decide)).trans (by decide), by decide⟩
  obtain ⟨fractions, hfractions⟩ : ∃ fractions,
      fractionPart unicode (point ++ (fraction ++ exponent)) = (fractions, exponent) := by
    rcases h.point with ⟨rfl, rfl⟩ | rfl
    · refine ⟨[], ?_⟩
      rw [List.nil_append, List.nil_append]
      unfold fractionPart
      split
      · exact absurd rfl (hends '.' rfl).2.2
      · rfl
    · obtain ⟨fractions, hread, -⟩ := @digitPart_append unicode _ _ h.fraction
        (fun c hc => ⟨(hends c hc).1, (hends c hc).2.1⟩)
      exact ⟨fractions, hread⟩
  have hsome : ¬ (values = [] ∧ fractions = []) := by
    rintro ⟨rfl, -⟩
    exact h.some (List.eq_nil_of_length_eq_zero hlength.symm)
  unfold decimal
  rw [hvalues]
  simp only
  rw [hfractions]
  simp only
  rw [if_neg hsome, Option.isSome_map]
  exact exponentPart_isSome hexp

theorem toLower_of_isDigit {c : Char} (h : c.isDigit = true) : c.toLower = c := by
  simp only [Char.isDigit, Bool.and_eq_true, decide_eq_true_eq] at h
  have hhigh : c.toNat ≤ 57 := h.2
  unfold Char.toLower
  split
  · rename_i hupper
    exfalso
    have hlow : 65 ≤ c.toNat := hupper.1
    omega
  · rfl

theorem not_space_of_ascii (unicode : Unicode) {c : Char} (hc : c.toNat < 128)
    (h : isSpace c = false) : unicode.space c = false := (unicode.space_ascii c hc).trans h

theorem not_space_of_minus (hminus : minus = [] ∨ minus = ['-']) :
    ∀ c ∈ minus, unicode.space c = false := by
  intro c hmem
  rcases hminus with rfl | rfl
  · cases hmem
  · rw [List.mem_singleton.mp hmem]
    exact not_space_of_ascii unicode (by decide) (by decide)

theorem not_space_of_exponent (h : Exponent exponent) :
    ∀ c ∈ exponent, unicode.space c = false := by
  intro c hmem
  rcases h with rfl | ⟨mark, minus, digits, hmark, hminus, -, hdigits, rfl⟩
  · cases hmem
  rcases List.mem_cons.mp hmem with rfl | hmem
  · rcases hmark with rfl | rfl
    · exact not_space_of_ascii unicode (by decide) (by decide)
    · exact not_space_of_ascii unicode (by decide) (by decide)
  rcases List.mem_append.mp hmem with hsign | hdigit
  · exact not_space_of_minus hminus c hsign
  · exact not_space_of_isDigit (hdigits c hdigit)

theorem not_space_of_plain (h : Plain minus whole point fraction) (hexp : Exponent exponent) :
    ∀ c ∈ minus ++ (whole ++ (point ++ (fraction ++ exponent))), unicode.space c = false := by
  intro c hmem
  simp only [List.mem_append] at hmem
  rcases hmem with hmem | hmem | hmem | hmem | hmem
  · exact not_space_of_minus h.minus c hmem
  · exact not_space_of_isDigit (h.whole c hmem)
  · rcases h.point with ⟨rfl, -⟩ | rfl
    · cases hmem
    · rw [List.mem_singleton.mp hmem]
      exact not_space_of_ascii unicode (by decide) (by decide)
  · exact not_space_of_isDigit (h.fraction c hmem)
  · exact not_space_of_exponent hexp c hmem

theorem float_isSome (h : Plain minus whole point fraction) (hexp : Exponent exponent) :
    (float unicode (minus ++ (whole ++ (point ++ (fraction ++ exponent))))).isSome := by
  obtain ⟨negative, hsigned⟩ := @signed_minus _ (point ++ (fraction ++ exponent)) _
    h.minus h.some h.whole
  obtain ⟨c, digits, hcons⟩ := List.exists_cons_of_ne_nil h.some
  have hc : c.isDigit = true := h.whole c (by rw [hcons]; exact List.mem_cons_self)
  have hword : ∀ word : List Char, word.head? = some 'i' ∨ word.head? = some 'n' →
      (whole ++ (point ++ (fraction ++ exponent))).map Char.toLower ≠ word := by
    rintro word hhead rfl
    rw [hcons, List.cons_append, List.map_cons, List.head?_cons, toLower_of_isDigit hc] at hhead
    rcases hhead with hi | hn
    · rw [Option.some.inj hi] at hc
      exact absurd hc (by decide)
    · rw [Option.some.inj hn] at hc
      exact absurd hc (by decide)
  unfold float
  rw [strip_of_not_space (not_space_of_plain h hexp), hsigned]
  simp only
  rw [if_neg (fun hinf => hinf.elim (hword _ (Or.inl rfl)) (hword _ (Or.inl rfl))),
    if_neg (hword _ (Or.inr rfl))]
  exact decimal_isSome negative h hexp

theorem plain_digits (hsome : digits ≠ []) (hdigits : ∀ d ∈ digits, d.isDigit = true) :
    Plain [] digits [] [] :=
  ⟨Or.inl rfl, hsome, hdigits, Or.inl ⟨rfl, rfl⟩, fun _ hmem => absurd hmem List.not_mem_nil⟩

/-- Whatever a coordinate spells, `float` takes. -/
theorem float_spells {coordinate : Coordinate} (h : coordinateAt text = some (coordinate, rest)) :
    ∀ part ∈ spells coordinate, (float unicode part).isSome := by
  intro part hpart
  rcases coordinateAt_eq h with ⟨value, rfl, -⟩ |
    ⟨token, minus, whole, point, fraction, rfl, -, hshape⟩
  · cases hpart
  rcases hshape.exp with hexp | ⟨c, digits, hexp⟩
  · rw [spells_plain hexp] at hpart
    have hfloat := @float_isSome unicode _ _ _ _ _ hshape.plain hexp
    have htext : token.text = minus ++ (whole ++ (point ++ (fraction ++ token.exp))) := by
      simp only [NumberToken.text, hshape.integer, hshape.frac, List.append_assoc]
    rw [List.mem_singleton.mp hpart, htext]
    exact hfloat
  · rw [spells_plus hexp] at hpart
    rcases List.mem_cons.mp hpart with rfl | hpart
    · have hfloat := @float_isSome unicode _ _ _ _ _ hshape.plain (Or.inl rfl)
      simpa only [hshape.integer, hshape.frac, List.append_assoc, List.append_nil] using hfloat
    · have hfloat := @float_isSome unicode _ _ _ _ _ (plain_digits hexp.2.1 hexp.2.2.1)
        (Or.inl rfl)
      rw [List.mem_singleton.mp hpart]
      simpa only [List.nil_append, List.append_nil] using hfloat

theorem float_origin {coordinates : List Coordinate} (h : loadsOrigin text = some coordinates) :
    ∀ part ∈ coordinates.flatMap spells, (float unicode part).isSome := by
  unfold loadsOrigin at h
  simp only [Option.bind_eq_bind, Option.bind_eq_some_iff] at h
  obtain ⟨a, -, ⟨x, b⟩, hx, c, -, ⟨y, d⟩, hy, e, -, ⟨yaw, f⟩, hyaw, g, -, h⟩ := h
  simp only at h
  split at h
  · obtain rfl := Option.some.inj h
    intro part hpart
    obtain ⟨coordinate, hmem, hspelled⟩ := List.mem_flatMap.mp hpart
    simp only [List.mem_cons, List.not_mem_nil, or_false] at hmem
    rcases hmem with rfl | rfl | rfl
    · exact float_spells hx part hspelled
    · exact float_spells hy part hspelled
    · exact float_spells hyaw part hspelled
  · cases h

theorem mapM_of_isSome {α β : Type} {f : α → Option β} {xs : List α}
    (h : ∀ x ∈ xs, (f x).isSome) : xs.mapM f = some (xs.filterMap f) := by
  induction xs with
  | nil => rfl
  | cons x xs ih =>
    obtain ⟨y, hy⟩ := Option.isSome_iff_exists.mp (h x List.mem_cons_self)
    rw [List.mapM_cons, hy, ih fun x' hmem => h x' (List.mem_cons_of_mem _ hmem),
      List.filterMap_cons_some hy]
    rfl

/-! ### Agreement -/

/-- The numbers that coordinates spell, the first three of them, or zeros. -/
def spelled (unicode : Unicode) (coordinates : List Coordinate) : List PyFloat :=
  ((coordinates.flatMap spells).filterMap (float unicode) ++
    List.replicate 3 (PyFloat.finite 0)).take 3

/-- The coordinates of the origin are the numbers that its text spells when a plus sign
    in an exponent ends one number and begins another, a Boolean is no number, an integer
    is the double next to it, and missing numbers are zeros. -/
def SpellsOrigin (unicode : Unicode) (text : List Char) : Prop :=
  ∃ coordinates values,
    ((describeFields unicode text).get "origin").bind loadsOrigin = some coordinates ∧
      coordinates.mapM (Coordinate.value unicode) = some values ∧
      spelled unicode coordinates = values.map Number.order

/-- What is drawn is what goals are checked against. -/
structure SameMap (description : Description) (yaml : Meta) (pgm : Pgm) : Prop where
  resolution : yaml.resolution = description.geometry.resolution
  origin : yaml.origin = description.geometry.origin.map Number.order
  negate : yaml.negate = description.geometry.negate
  occupiedThresh : yaml.occupiedThresh = description.geometry.occupiedThresh
  freeThresh : yaml.freeThresh = description.geometry.freeThresh
  raster : pgm = description.raster

/-- `static_map.py` reads the same map. -/
def Agrees (unicode : Unicode) (directory : Directory) (text : List Char)
    (description : Description) : Prop :=
  ∃ yaml data pgm, parseMapYaml unicode text = some yaml ∧
    directory.read yaml.image = some data ∧ readPgm data = some pgm ∧
    SameMap description yaml pgm

theorem fields_eq (unicode : Unicode) (text : List Char) :
    (splitlines text).foldl (readLine unicode) [] = describeFields unicode text := by
  have hsame : readLine unicode = describeLine unicode := by
    funext fields line
    exact readLine_eq_describeLine fields line
  rw [hsame, describeFields]

theorem intOfToken_maxval : intOfToken [50, 53, 53] = some 255 := by decide +kernel

/-- A raster that the catalogue takes is read as it is. -/
theorem readPgm_of_rasterOf {data : List UInt8} {pgm : Pgm} (h : rasterOf data = some pgm) :
    readPgm data = some pgm := by
  unfold rasterOf at h
  simp only [Option.bind_eq_bind, Option.bind_eq_some_iff] at h
  obtain ⟨⟨⟨magic, width, height, maxval⟩, rest⟩, hheader, width', hwidth, height', hheight, h⟩ := h
  split at h
  · rename_i hvalid
    obtain ⟨rfl, rfl, hwide, hhigh, hlength⟩ := hvalid
    obtain rfl := Option.some.inj h
    have hlength' : ((rest.drop 1).length : Int) = width' * height' := hlength
    have hcount : ¬ width' * height' < 0 := not_lt.mpr (mul_pos hwide hhigh).le
    have hall : (rest.drop 1).take (width' * height').toNat = rest.drop 1 := by
      rw [← hlength', Int.toNat_natCast, List.take_length]
    unfold readPgm
    rw [hheader]
    simp only [Option.bind_eq_bind, Option.bind_some, hwidth, hheight, intOfToken_maxval]
    rw [if_neg (by simp), if_neg hcount, hall, if_neg (not_not.mpr hlength')]
    rfl
  · cases h

/-- The YAML of a map that the catalogue takes is read with what its origin spells. -/
theorem parseMapYaml_of_geometryOf {geometry : Geometry} {image : List Char}
    (himage : (describeFields unicode text).get "image" = some image)
    (h : geometryOf unicode (describeFields unicode text) = some geometry) :
    ∃ coordinates yaml,
      ((describeFields unicode text).get "origin").bind loadsOrigin = some coordinates ∧
      coordinates.mapM (Coordinate.value unicode) = some geometry.origin ∧
      parseMapYaml unicode text = some yaml ∧
      yaml = ⟨image, geometry.resolution, spelled unicode coordinates, geometry.negate,
        geometry.occupiedThresh, geometry.freeThresh⟩ := by
  unfold geometryOf at h
  simp only [Option.bind_eq_bind, Option.bind_eq_some_iff] at h
  obtain ⟨coordinates, ⟨originText, hget, hloads⟩, origin, horigin, resolution,
    ⟨resolutionText, hresolution, hres⟩, negate, ⟨negateText, hnegate, hneg⟩, occupiedThresh,
    ⟨occupiedText, hoccupied, hocc⟩, freeThresh, ⟨freeText, hfree, hfr⟩, h⟩ := h
  split at h
  · obtain rfl := Option.some.inj h
    have hfound : (numbersFrom unicode 0 originText).mapM (float unicode) =
        some ((coordinates.flatMap spells).filterMap (float unicode)) := by
      rw [numbersFrom_origin hloads]
      exact mapM_of_isSome (float_origin hloads)
    refine ⟨coordinates, _, ?_, horigin, ?_, rfl⟩
    · rw [hget]
      exact hloads
    · unfold parseMapYaml
      rw [fields_eq]
      simp only [hget, Option.getD_some, hfound, himage, hresolution, hnegate, hoccupied, hfree,
        hres, hneg, hocc, hfr, Option.bind_eq_bind, Option.bind_some]
      rfl
  · cases h

/-- What `describe_map` accepts, the static map's reader accepts; it reads the same map
    exactly when the text of the origin spells its coordinates. -/
theorem agrees_iff (unicode : Unicode) (directory : Directory) (text : List Char)
    (description : Description) (h : describeMap unicode directory text = some description) :
    Agrees unicode directory text description ↔ SpellsOrigin unicode text := by
  unfold describeMap at h
  simp only [Option.bind_eq_bind, Option.bind_eq_some_iff] at h
  obtain ⟨image, himage, geometry, hgeometry, data, hdata, pgm, hpgm, h⟩ := h
  split at h
  · obtain rfl := Option.some.inj h
    obtain ⟨coordinates, yaml, hloads, hvalues, hyaml, rfl⟩ :=
      parseMapYaml_of_geometryOf himage hgeometry
    constructor
    · rintro ⟨yaml, data', pgm', hyaml', -, -, hsame⟩
      obtain rfl := Option.some.inj (hyaml.symm.trans hyaml')
      exact ⟨coordinates, geometry.origin, hloads, hvalues, hsame.origin⟩
    · rintro ⟨coordinates', values, hloads', hvalues', hspelled⟩
      obtain rfl := Option.some.inj (hloads.symm.trans hloads')
      obtain rfl := Option.some.inj (hvalues.symm.trans hvalues')
      exact ⟨_, data, pgm, hyaml, hdata, readPgm_of_rasterOf hpgm, rfl, hspelled, rfl, rfl, rfl,
        rfl⟩
  · cases h

/-- A map of one pixel, with an origin. -/
def sampleYaml (origin : String) : List Char :=
  ("image: a.pgm\nresolution: 1\norigin: " ++ origin ++
    "\nnegate: 0\noccupied_thresh: 0.5\nfree_thresh: 0.25").toList

def sampleFiles : Directory where
  read _ := some ("P5 1 1 255\n".toList.map (fun c => c.toNat.toUInt8) ++ [0])
  beside _ := true

/-- What both readers make of the sample. -/
def sampleDescription (origin : List Number) : Description where
  geometry := ⟨.finite 1, origin, 0, .finite (1 / 2), .finite (1 / 4)⟩
  raster := ⟨1, 1, [0]⟩

/-- An origin in the way `map_server` writes it. -/
theorem agrees_iff_sample :
    Agrees Unicode.ascii sampleFiles (sampleYaml "[-1, 2.5, 0e-1]")
      (sampleDescription [.int (-1), .float (.finite (5 / 2)), .float (.finite 0)]) :=
  (agrees_iff Unicode.ascii sampleFiles _ _ (by decide +kernel)).mpr
    ⟨[.number ⟨['-', '1'], [], []⟩, .number ⟨['2'], ['.', '5'], []⟩,
        .number ⟨['0'], [], ['e', '-', '1']⟩],
      [.int (-1), .float (.finite (5 / 2)), .float (.finite 0)],
      by decide +kernel, by decide +kernel, by decide +kernel⟩

/-- An origin with a plus sign in an exponent: 100 is read as 1 and 2. -/
theorem not_agrees_plus :
    describeMap Unicode.ascii sampleFiles (sampleYaml "[1e+2, 0, 0]") =
        some (sampleDescription [.float (.finite 100), .int 0, .int 0]) ∧
      ¬ Agrees Unicode.ascii sampleFiles (sampleYaml "[1e+2, 0, 0]")
        (sampleDescription [.float (.finite 100), .int 0, .int 0]) := by
  constructor
  · decide +kernel
  · rintro ⟨yaml, data, pgm, hyaml, -, -, hsame⟩
    have hread : (parseMapYaml Unicode.ascii (sampleYaml "[1e+2, 0, 0]")).map Meta.origin =
        some [.finite 1, .finite 2, .finite 0] := by decide +kernel
    rw [hyaml] at hread
    have horigin := hsame.origin.symm.trans (Option.some.inj hread)
    revert horigin
    decide +kernel

end PatrolBot.Maps
