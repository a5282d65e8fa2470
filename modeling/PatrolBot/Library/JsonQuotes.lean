import PatrolBot.Library.JsonText

/-!
# Searching a JSON text for a quoted name

A search for a name in quotation marks finds every string of the value that is the name.
It also finds a string that ends in a quotation mark and the name, for the mark is escaped
by a character before it; and it finds nothing else.
-/

namespace PatrolBot.JsonText

variable {F : Type}

/-! ### What stands between quotation marks -/

/-- The segments of a text between two quotation marks that follow each other; `some acc` is
    what was read since the last one. -/
def segments : Option (List Char) → List Char → List (List Char)
  | _, [] => []
  | acc, c :: text =>
    if c = '"' then acc.toList ++ segments (some []) text
    else segments (acc.map (· ++ [c])) text

/-- What was read since the last quotation mark, at the end of a text. -/
def pending : Option (List Char) → List Char → Option (List Char)
  | acc, [] => acc
  | acc, c :: text =>
    if c = '"' then pending (some []) text else pending (acc.map (· ++ [c])) text

theorem segments_append (acc : Option (List Char)) (left right : List Char) :
    segments acc (left ++ right) = segments acc left ++ segments (pending acc left) right := by
  induction left generalizing acc with
  | nil => rfl
  | cons c left ih =>
    by_cases hc : c = '"'
    · simp [segments, pending, hc, ih]
    · simp [segments, pending, hc, ih]

theorem pending_append (acc : Option (List Char)) (left right : List Char) :
    pending acc (left ++ right) = pending (pending acc left) right := by
  induction left generalizing acc with
  | nil => rfl
  | cons c left ih =>
    by_cases hc : c = '"'
    · simp [pending, hc, ih]
    · simp [pending, hc, ih]

theorem segments_unquoted {text : List Char} (h : '"' ∉ text) (acc : Option (List Char)) :
    segments acc text = [] := by
  induction text generalizing acc with
  | nil => rfl
  | cons c text ih =>
    rw [List.mem_cons, not_or] at h
    rw [segments, if_neg (Ne.symm h.1), ih h.2]

theorem pending_unquoted {text : List Char} (h : '"' ∉ text) (acc : Option (List Char)) :
    pending acc text = acc.map (· ++ text) := by
  induction text generalizing acc with
  | nil => cases acc <;> simp [pending]
  | cons c text ih =>
    rw [List.mem_cons, not_or] at h
    rw [pending, if_neg (Ne.symm h.1), ih h.2]
    cases acc <;> simp

/-- The name in quotation marks. -/
def quoted (name : List Char) : List Char := '"' :: (name ++ ['"'])

theorem mem_segments_some {name : List Char} (hname : '"' ∉ name) (acc text : List Char) :
    name ∈ segments (some acc) text ↔
      (∃ rest, name = acc ++ rest ∧ rest ++ ['"'] <+: text) ∨ name ∈ segments none text := by
  induction text generalizing acc with
  | nil => simp [segments]
  | cons c text ih =>
    by_cases hc : c = '"'
    · subst hc
      simp only [segments, if_true, Option.toList_some, Option.toList_none, List.nil_append,
        List.mem_append, List.mem_singleton]
      refine or_congr ?_ Iff.rfl
      constructor
      · rintro rfl
        exact ⟨[], by simp, by simp⟩
      · rintro ⟨rest, rfl, hstart⟩
        cases rest with
        | nil => simp
        | cons d rest =>
          rw [List.cons_append, List.cons_prefix_cons] at hstart
          exact absurd (by simp [hstart.1]) hname
    · rw [segments, if_neg hc, Option.map_some, ih, segments, if_neg hc, Option.map_none]
      refine or_congr ?_ Iff.rfl
      constructor
      · rintro ⟨rest, rfl, hstart⟩
        refine ⟨c :: rest, by simp, ?_⟩
        rw [List.cons_append, List.cons_prefix_cons]
        exact ⟨rfl, hstart⟩
      · rintro ⟨rest, rfl, hstart⟩
        cases rest with
        | nil =>
          rw [List.nil_append, List.cons_prefix_cons] at hstart
          exact absurd hstart.1.symm hc
        | cons d rest =>
          rw [List.cons_append, List.cons_prefix_cons] at hstart
          exact ⟨rest, by simp [hstart.1], hstart.2⟩

/-- The search finds the segments. -/
theorem quoted_infix_iff {name : List Char} (hname : '"' ∉ name) (text : List Char) :
    quoted name <:+: text ↔ name ∈ segments none text := by
  induction text with
  | nil => simp [quoted, segments]
  | cons c text ih =>
    rw [List.infix_cons_iff, ih, segments, quoted, List.cons_prefix_cons]
    by_cases hc : c = '"'
    · rw [if_pos hc, Option.toList_none, List.nil_append, mem_segments_some hname]
      refine or_congr ?_ Iff.rfl
      constructor
      · rintro ⟨-, hstart⟩
        exact ⟨name, rfl, hstart⟩
      · rintro ⟨rest, rfl, hstart⟩
        exact ⟨hc.symm, hstart⟩
    · rw [if_neg hc, Option.map_none]
      constructor
      · rintro (⟨heq, -⟩ | hmem)
        · exact absurd heq.symm hc
        · exact hmem
      · exact Or.inr

/-! ### Strings -/

/-- The part of a string after its last quotation mark, all of it if there is none; `acc` are
    the characters before. -/
def afterQuote : List Char → List Char → List Char
  | acc, [] => acc
  | acc, c :: characters =>
    if c = '"' then afterQuote [] characters else afterQuote (acc ++ [c]) characters

theorem escape_cases (c : Char) : escape c = [c] ∨ ∃ rest, escape c = '\\' :: rest := by
  unfold escape
  grind [escapedUnit]

theorem quote_not_mem_escapedUnit (n : Nat) : '"' ∉ escapedUnit n := by
  have hdigit : ∀ d < 16, '"' ≠ Nat.digitChar d := by decide
  simp only [escapedUnit, List.mem_cons, List.not_mem_nil, or_false, not_or]
  exact ⟨by decide, by decide, hdigit _ (Nat.mod_lt _ (by omega)),
    hdigit _ (Nat.mod_lt _ (by omega)), hdigit _ (Nat.mod_lt _ (by omega)),
    hdigit _ (Nat.mod_lt _ (by omega))⟩

theorem quote_not_mem_escape {c : Char} (hc : c ≠ '"') : '"' ∉ escape c := by
  unfold escape
  rw [if_neg hc]
  split
  · decide
  · split
    · decide
    · split
      · decide
      · split
        · decide
        · split
          · decide
          · split
            · decide
            · split
              · simpa using Ne.symm hc
              · split
                · exact quote_not_mem_escapedUnit _
                · rw [List.mem_append, not_or]
                  exact ⟨quote_not_mem_escapedUnit _, quote_not_mem_escapedUnit _⟩

/-- A name that is written as it is: no character of it is escaped. -/
theorem flatMap_escape_eq_iff {characters name : List Char} (hname : name.all isPlain = true) :
    characters.flatMap escape = name ↔ characters = name := by
  constructor
  · intro h
    induction characters generalizing name with
    | nil => exact h
    | cons c characters ih =>
      rw [List.flatMap_cons] at h
      rcases escape_cases c with hplain | ⟨rest, hescaped⟩
      · rw [hplain] at h
        cases name with
        | nil => cases h
        | cons d name =>
          rw [List.all_cons, Bool.and_eq_true] at hname
          obtain ⟨hhead, htail⟩ := List.cons.inj h
          rw [hhead, ih hname.2 htail]
      · rw [hescaped] at h
        cases name with
        | nil => cases h
        | cons d name =>
          have hhead := (List.cons.inj h).1
          rw [List.all_cons, Bool.and_eq_true, ← hhead] at hname
          exact absurd hname.1 (by decide)
  · rintro rfl
    induction characters with
    | nil => rfl
    | cons c characters ih =>
      rw [List.all_cons, Bool.and_eq_true] at hname
      have hplain : escape c = [c] := by simpa [isPlain] using hname.1
      rw [List.flatMap_cons, ih hname.2, hplain]
      rfl

theorem quote_not_mem_of_plain {name : List Char} (hname : name.all isPlain = true) :
    '"' ∉ name := by
  intro hmem
  exact absurd (List.all_eq_true.mp hname _ hmem) (by decide)

theorem pending_stringBody (acc : Option (List Char)) (characters : List Char) :
    pending acc (stringBody characters) = some [] := by
  rw [stringBody, pending_append]
  rfl

/-- A segment inside a string that ends with an escaped quotation mark is no name, so that
    only the last one counts. -/
theorem mem_segments_stringBody {name : List Char} (hname : name.all isPlain = true)
    (acc characters : List Char) :
    name ∈ segments (some (acc.flatMap escape)) (stringBody characters) ↔
      afterQuote acc characters = name := by
  induction characters generalizing acc with
  | nil =>
    rw [afterQuote, ← flatMap_escape_eq_iff hname, eq_comm]
    simp [stringBody, segments]
  | cons c characters ih =>
    have hbody : stringBody (c :: characters) = escape c ++ stringBody characters := by
      simp [stringBody]
    rw [hbody, segments_append]
    by_cases hc : c = '"'
    · subst hc
      have hescape : escape '"' = ['\\', '"'] := by decide
      have hne : name ≠ acc.flatMap escape ++ ['\\'] := by
        rintro rfl
        have hslash := List.all_eq_true.mp hname '\\' (by simp)
        exact absurd hslash (by decide)
      have hih := ih []
      rw [List.flatMap_nil] at hih
      rw [afterQuote, if_pos rfl, ← hih, hescape]
      simp [segments, pending, hne]
    · rw [segments_unquoted (quote_not_mem_escape hc), pending_unquoted (quote_not_mem_escape hc),
        List.nil_append, afterQuote, if_neg hc, ← ih (acc ++ [c])]
      simp

/-! ### Values -/

mutual

/-- The strings of a value, its keys among them. -/
def strings : Value F → List String
  | .str value => [value]
  | .list items => stringsOfItems items
  | .obj fields => stringsOfFields fields
  | _ => []

def stringsOfItems : List (Value F) → List String
  | [] => []
  | item :: items => strings item ++ stringsOfItems items

def stringsOfFields : List (String × Value F) → List String
  | [] => []
  | (key, value) :: fields => key :: (strings value ++ stringsOfFields fields)

end

/-- The string is the name, or ends in a quotation mark and the name. -/
def endsAs (name : List Char) (value : String) : Prop := afterQuote [] value.toList = name

/-- A character between the strings of a text. -/
def isStructural (c : Char) : Bool :=
  c == ',' || c == ':' || c == '[' || c == ']' || c == '{' || c == '}'

/-- What was read since the last quotation mark cannot become a name. -/
def Barred (acc : Option (List Char)) : Prop :=
  ∀ read, acc = some read → ∃ c rest, read = c :: rest ∧ isStructural c = true

/-- Where a value ends: it was a string, or what was read cannot become a name. -/
def Loose (acc : Option (List Char)) : Prop := acc = some [] ∨ Barred acc

theorem barred_none : Barred none := fun _ h => absurd h (Option.some_ne_none _).symm

theorem Barred.append {acc : Option (List Char)} (h : Barred acc) (text : List Char) :
    Barred (acc.map (· ++ text)) := by
  intro read hread
  rw [Option.map_eq_some_iff] at hread
  obtain ⟨before, hbefore, rfl⟩ := hread
  obtain ⟨c, rest, rfl, hc⟩ := h before hbefore
  exact ⟨c, rest ++ text, rfl, hc⟩

theorem Loose.append {acc : Option (List Char)} (h : Loose acc) {c : Char}
    (hc : isStructural c = true) : Barred (acc.map (· ++ [c])) := by
  rcases h with rfl | hbarred
  · intro read hread
    cases hread
    exact ⟨c, [], rfl, hc⟩
  · exact hbarred.append [c]

/-- A name that a search can be for: nothing in it is escaped, and it begins as no text
    between two strings does. -/
structure Searchable (name : List Char) : Prop where
  plain : name.all isPlain = true
  head : ∃ c rest, name = c :: rest ∧ isStructural c = false

theorem Searchable.not_mem_toList {name : List Char} (h : Searchable name)
    {acc : Option (List Char)} (hacc : Barred acc) : name ∉ acc.toList := by
  intro hmem
  obtain ⟨c, rest, rfl, hc⟩ := h.head
  obtain ⟨d, tail, hread, hd⟩ := hacc _ (Option.mem_toList.mp hmem)
  cases hread
  rw [hc] at hd
  cases hd

section

variable (numbers : Numbers F) {name : List Char}

/-- What the search finds in a part of a text that is reached with `acc`. -/
structure Finds (name : List Char) (acc : Option (List Char)) (text : List Char)
    (found : Prop) : Prop where
  found : name ∈ segments acc text ↔ found
  loose : Loose (pending acc text)

theorem finds_unquoted {acc : Option (List Char)} (hacc : Barred acc) {text : List Char}
    (htext : '"' ∉ text) : Finds name acc text False where
  found := by
    rw [segments_unquoted htext]
    exact iff_of_false List.not_mem_nil id
  loose := by
    rw [pending_unquoted htext]
    exact Or.inr (hacc.append text)

theorem finds_string (hname : Searchable name) {acc : Option (List Char)} (hacc : Barred acc)
    (value : String) : Finds name acc ('"' :: stringBody value.toList) (endsAs name value) where
  found := by
    have hbody := mem_segments_stringBody hname.plain [] value.toList
    rw [List.flatMap_nil] at hbody
    rw [segments, if_pos rfl, List.mem_append, hbody, endsAs]
    exact or_iff_right (hname.not_mem_toList hacc)
  loose := by
    rw [pending, if_pos rfl, pending_stringBody]
    exact Or.inl rfl

/-- One part after the other. -/
theorem Finds.append {acc : Option (List Char)} {left right : List Char} {first second : Prop}
    (hleft : Finds name acc left first) (hright : Finds name (pending acc left) right second) :
    Finds name acc (left ++ right) (first ∨ second) where
  found := by rw [segments_append, List.mem_append, hleft.found, hright.found]
  loose := by
    rw [pending_append]
    exact hright.loose

/-- A part behind a character that is no quotation mark. -/
theorem Finds.cons {acc : Option (List Char)} {c : Char} (hc : c ≠ '"') {text : List Char}
    {found : Prop} (h : Finds name (acc.map (· ++ [c])) text found) :
    Finds name acc (c :: text) found where
  found := by
    rw [segments, if_neg hc]
    exact h.found
  loose := by
    rw [pending, if_neg hc]
    exact h.loose

theorem Finds.congr {acc : Option (List Char)} {text : List Char} {first second : Prop}
    (h : Finds name acc text first) (hiff : first ↔ second) : Finds name acc text second where
  found := h.found.trans hiff
  loose := h.loose

theorem quote_not_mem_intText (n : Int) : '"' ∉ intText n := by
  intro hmem
  exact absurd (token_of_mem_intText hmem) (by decide)

/-- A field: its key, a colon and its value. -/
theorem finds_field (hname : Searchable name) {acc : Option (List Char)} (hacc : Barred acc)
    (key : String) {value rest : List Char} {first second : Prop}
    (hvalue : ∀ acc, Barred acc → Finds name acc value first)
    (hrest : ∀ acc, Loose acc → Finds name acc rest second) :
    Finds name acc ('"' :: (stringBody key.toList ++ ':' :: (value ++ rest)))
      (endsAs name key ∨ first ∨ second) := by
  have hkey := finds_string hname hacc key
  have hcolon : Barred ((pending acc ('"' :: stringBody key.toList)).map (· ++ [':'])) :=
    hkey.loose.append (by decide)
  have hboth := (hvalue _ hcolon).append (hrest _ (hvalue _ hcolon).loose)
  exact hkey.append (hboth.cons (by decide))

mutual

/-- **Search lemma.**  The search finds the strings of a value that are the name, or end in a
    quotation mark and the name. -/
theorem finds_text (hname : Searchable name) (hnumbers : ∀ x, '"' ∉ numbers.text x) :
    ∀ (value : Value F) (acc : Option (List Char)), Barred acc →
      Finds name acc (text numbers value) (∃ string ∈ strings value, endsAs name string)
  | .null, acc, hacc => (finds_unquoted hacc (by simp [text])).congr (by simp [strings])
  | .bool true, acc, hacc => (finds_unquoted hacc (by simp [text])).congr (by simp [strings])
  | .bool false, acc, hacc => (finds_unquoted hacc (by simp [text])).congr (by simp [strings])
  | .int n, acc, hacc =>
    (finds_unquoted hacc (quote_not_mem_intText n)).congr (by simp [strings])
  | .real x, acc, hacc => (finds_unquoted hacc (hnumbers x)).congr (by simp [strings])
  | .str value, acc, hacc => (finds_string hname hacc value).congr (by simp [strings])
  | .list [], acc, hacc =>
    (finds_unquoted hacc (by simp [text])).congr (by simp [strings, stringsOfItems])
  | .list (item :: items), acc, hacc => by
    have hitem := finds_text hname hnumbers item _ (hacc.append ['['])
    have hitems := finds_moreItems hname hnumbers items _ hitem.loose
    exact ((hitem.append hitems).cons (by decide)).congr
      (by simp [strings, stringsOfItems, or_and_right, exists_or])
  | .obj [], acc, hacc =>
    (finds_unquoted hacc (by simp [text])).congr (by simp [strings, stringsOfFields])
  | .obj ((key, value) :: fields), acc, hacc => by
    have hfield := finds_field hname (hacc.append ['{']) key
      (finds_text hname hnumbers value) (finds_moreFields hname hnumbers fields)
    exact (hfield.cons (by decide)).congr
      (by simp [strings, stringsOfFields, or_and_right, exists_or])

theorem finds_moreItems (hname : Searchable name) (hnumbers : ∀ x, '"' ∉ numbers.text x) :
    ∀ (items : List (Value F)) (acc : Option (List Char)), Loose acc →
      Finds name acc (moreItems numbers items)
        (∃ string ∈ stringsOfItems items, endsAs name string)
  | [], acc, hacc => by
    have hclosed : Finds name (acc.map (· ++ [']'])) [] False :=
      finds_unquoted (hacc.append (by decide)) List.not_mem_nil
    exact (hclosed.cons (by decide)).congr (by simp [stringsOfItems])
  | item :: items, acc, hacc => by
    have hitem := finds_text hname hnumbers item _ (hacc.append (c := ',') (by decide))
    have hitems := finds_moreItems hname hnumbers items _ hitem.loose
    exact ((hitem.append hitems).cons (by decide)).congr
      (by simp [stringsOfItems, or_and_right, exists_or])

theorem finds_moreFields (hname : Searchable name) (hnumbers : ∀ x, '"' ∉ numbers.text x) :
    ∀ (fields : List (String × Value F)) (acc : Option (List Char)), Loose acc →
      Finds name acc (moreFields numbers fields)
        (∃ string ∈ stringsOfFields fields, endsAs name string)
  | [], acc, hacc => by
    have hclosed : Finds name (acc.map (· ++ ['}'])) [] False :=
      finds_unquoted (hacc.append (by decide)) List.not_mem_nil
    exact (hclosed.cons (by decide)).congr (by simp [stringsOfFields])
  | (key, value) :: fields, acc, hacc => by
    have hfield := finds_field hname (hacc.append (c := ',') (by decide)) key
      (finds_text hname hnumbers value) (finds_moreFields hname hnumbers fields)
    exact (hfield.cons (by decide)).congr
      (by simp [stringsOfFields, or_and_right, exists_or])

end

/-- A quoted name occurs in a text exactly if a string of the value is the name, or ends in a
    quotation mark and the name. -/
theorem quoted_infix_text_iff (hname : Searchable name) (hnumbers : ∀ x, '"' ∉ numbers.text x)
    (value : Value F) :
    quoted name <:+: text numbers value ↔ ∃ string ∈ strings value, endsAs name string := by
  rw [quoted_infix_iff (quote_not_mem_of_plain hname.plain)]
  exact (finds_text numbers hname hnumbers value none barred_none).found

end

end PatrolBot.JsonText
