/-
  The tokens of a written value.

  The walk over a text stands between two tokens most of the time.  A piece of text spells some tokens
  if the walk, between tokens before it, has read just these tokens behind it (`Spells`).  Only a number
  or a word has no end of its own: it ends where a character follows that cannot go on with it.

  1. **Pieces** — marks, spaces, words and strings spell themselves, and a piece may follow another one
     where it starts with what ends a word (`Spells.append`).
  2. **Values** — the compact and the indented form of a value spell the tokens of that value, by
     induction on how it is written (`spells_compact`, `spells_indented`).
-/
import Redline.Json.Write
import Redline.Proofs.Json.Text
import Redline.Proofs.Text.Numeral
import Mathlib.Data.List.TakeWhile

namespace Redline.Json

variable {cs cs' : List Char} {ts ts' : List Token} {c : Char} {t : Token}

/-! ## Pieces -/

/-- No word goes on in `rest`. -/
def EndsWord (rest : List Char) : Prop :=
  ∀ c ∈ rest.head?, isWordChar c = false

/-- Between tokens, `cs` is read as the tokens `ts`, where no word goes on behind it. -/
def Spells (cs : List Char) (ts : List Token) : Prop :=
  ∀ done rest, EndsWord rest →
    Scan.between.run done (cs ++ rest) = Scan.between.run (ts.reverse ++ done) rest

/-- A text that spells tokens has these tokens. -/
theorem tokens?_of_spells (h : Spells cs ts) : tokens? cs = some ts := by
  have hrun := h [] [] fun c hc => absurd hc (Option.not_mem_none c)
  rw [List.append_nil, List.append_nil] at hrun
  rw [tokens?, hrun]
  show some ts.reverse.reverse = some ts
  rw [List.reverse_reverse]

theorem spells_nil : Spells [] [] :=
  fun _ _ _ => rfl

theorem endsWord_cons (h : isWordChar c = false) (rest : List Char) : EndsWord (c :: rest) := by
  intro c' hc'
  cases hc'
  exact h

/-- **One piece behind another.** -/
theorem Spells.append (h : Spells cs ts) (hend : EndsWord cs') (h' : Spells cs' ts') :
    Spells (cs ++ cs') (ts ++ ts') := by
  intro done rest hrest
  have hnext : EndsWord (cs' ++ rest) := by
    cases cs' with
    | nil => exact hrest
    | cons c cs' => exact endsWord_cons (hend c rfl) _
  rw [List.append_assoc, h done _ hnext, h' _ rest hrest, List.reverse_append, List.append_assoc]

/-- A mark is a token of its own. -/
theorem Spells.mark_cons (hmark : ∀ done, Scan.start done c = some (.between, t :: done))
    (h : Spells cs ts) : Spells (c :: cs) (t :: ts) := by
  intro done rest hrest
  rw [List.cons_append, Scan.run, Scan.step, hmark]
  show Scan.between.run (t :: done) (cs ++ rest) = _
  rw [h (t :: done) rest hrest, List.reverse_cons, List.append_assoc]
  rfl

/-- A space is no token. -/
theorem Spells.space_cons (hc : isSpace c = true) (h : Spells cs ts) : Spells (c :: cs) ts := by
  intro done rest hrest
  rw [List.cons_append, Scan.run, Scan.step, Scan.start, if_pos hc]
  exact h done rest hrest

/-- A new line and its indentation are no tokens. -/
theorem Spells.newLine_append (depth : Nat) (h : Spells cs ts) : Spells (newLine depth ++ cs) ts := by
  have hspaces : ∀ n, Spells (List.replicate n ' ' ++ cs) ts := by
    intro n
    induction n with
    | zero => exact h
    | succ n ih => exact ih.space_cons rfl
  exact (hspaces (2 * depth)).space_cons rfl

/-- A character of a word is neither a space nor a quote. -/
theorem ne_of_isWordChar (h : isWordChar c = true) : isSpace c = false ∧ c ≠ '"' := by
  constructor
  · rw [isSpace, Bool.eq_false_iff]
    intro hspace
    simp only [Bool.or_eq_true, decide_eq_true_eq] at hspace
    rcases hspace with ((rfl | rfl) | rfl) | rfl <;> exact absurd h (by decide)
  · rintro rfl
    exact absurd h (by decide)

/-- A word is read to its end. -/
theorem run_word (hword : ∀ c ∈ cs, isWordChar c = true) (read rest : List Char) (done : List Token) :
    (Scan.word read).run done (cs ++ rest) = (Scan.word (cs.reverse ++ read)).run done rest := by
  induction cs generalizing read with
  | nil => rfl
  | cons c cs ih =>
    rw [List.forall_mem_cons] at hword
    rw [List.cons_append, Scan.run, Scan.step, if_pos hword.1]
    show (Scan.word (c :: read)).run done (cs ++ rest) = _
    rw [ih hword.2, List.reverse_cons, List.append_assoc]
    rfl

/-- **A word** is the token of its value. -/
theorem spells_word {value : Json} (hne : cs ≠ []) (hword : ∀ c ∈ cs, isWordChar c = true)
    (hvalue : scalarOfWord? cs = some value) : Spells cs [.scalar value] := by
  intro done rest hrest
  cases cs with
  | nil => exact absurd rfl hne
  | cons c cs =>
    have hc := hword c List.mem_cons_self
    obtain ⟨hspace, hquote⟩ := ne_of_isWordChar hc
    have hread : (cs.reverse ++ [c]).reverse = c :: cs := by
      rw [List.reverse_append, List.reverse_reverse]
      rfl
    rw [List.cons_append, Scan.run, Scan.step, Scan.start, if_neg (by rw [hspace]; decide),
      if_neg hquote, if_pos hc]
    show (Scan.word [c]).run done (cs ++ rest) = Scan.between.run (.scalar value :: done) rest
    rw [run_word fun x hx => hword x (List.mem_cons_of_mem c hx)]
    cases rest with
    | nil =>
      rw [Scan.run, Scan.finish, hread, hvalue]
      rfl
    | cons c' rest =>
      -- What follows ends the word, and is then read as it is between tokens.
      rw [Scan.run, Scan.step, if_neg (by rw [hrest c' rfl]; decide), hread, hvalue]
      rfl

/-! ## Numbers and strings -/

/-- A numeral is a whole number to its end. -/
theorem afterWhole?_decimal (n : Nat) : afterWhole? (Text.decimal n) = some [] := by
  rcases Nat.eq_zero_or_pos n with rfl | hpos
  · rfl
  · have hdigits : ∀ c ∈ Text.decimal n, c.isDigit = true := fun c => Text.isDigit_of_mem_decimal
    unfold afterWhole?
    split
    · rename_i rest hzero
      exact absurd (congrArg List.head? hzero) (Text.head?_decimal_ne hpos)
    · rw [afterDigits?, List.takeWhile_eq_self_iff.mpr hdigits, if_neg (Text.decimal_ne_nil n),
        List.dropWhile_eq_nil_iff.mpr hdigits]

/-- **A number** is the token of that number. -/
theorem spells_number (n : Nat) : Spells (Text.decimal n) [.scalar (.number n)] := by
  have hdigits : ∀ c ∈ Text.decimal n, c.isDigit = true := fun c => Text.isDigit_of_mem_decimal
  have hletter : ∀ word : List Char, word.all Char.isDigit = false → Text.decimal n ≠ word := by
    rintro word hno rfl
    rw [List.all_eq_true.mpr hdigits] at hno
    cases hno
  refine spells_word (Text.decimal_ne_nil n) (fun c hc => ?_) ?_
  · simp only [isWordChar, Char.isAlphanum, hdigits c hc, Bool.or_true, Bool.true_or]
  · unfold scalarOfWord?
    rw [if_neg (hletter _ (by decide)), if_neg (hletter _ (by decide)),
      if_neg (hletter _ (by decide)), if_pos (afterWhole?_decimal n), Text.digitsFrom_decimal]

/-- No digit of an escape sequence ends the string. -/
theorem hexDigit_ne (n : Nat) : hexDigit n ≠ '"' ∧ hexDigit n ≠ '\\' := by
  have hdigit : ∀ m < 16, Nat.digitChar m ≠ '"' ∧ Nat.digitChar m ≠ '\\' := by decide
  exact hdigit (n % 16) (Nat.mod_lt n (by decide))

/-- Inside a string a plain character is kept. -/
theorem run_string_cons (hquote : c ≠ '"') (hslash : c ≠ '\\') (read rest : List Char)
    (done : List Token) :
    (Scan.string read).run done (c :: rest) = (Scan.string (c :: read)).run done rest := by
  rw [Scan.run, Scan.step, if_neg hquote, if_neg hslash]

/-- No character that is written inside a string ends it. -/
theorem run_escapedChar (c : Char) (read rest : List Char) (done : List Token) :
    (Scan.string read).run done (escapedChar c ++ rest)
      = (Scan.string ((escapedChar c).reverse ++ read)).run done rest := by
  unfold escapedChar
  split
  case h_8 hquote hslash _ _ _ _ _ =>
    split
    · obtain ⟨hquote, hslash⟩ := hexDigit_ne (c.toNat / 16)
      obtain ⟨hquote', hslash'⟩ := hexDigit_ne c.toNat
      show (Scan.string ('0' :: '0' :: 'u' :: '\\' :: read)).run done
        (hexDigit (c.toNat / 16) :: hexDigit c.toNat :: rest) = _
      rw [run_string_cons hquote hslash, run_string_cons hquote' hslash']
      rfl
    · exact run_string_cons hquote hslash read rest done
  all_goals rfl

/-- All characters of a text, one after the other. -/
theorem run_escaped (cs read rest : List Char) (done : List Token) :
    (Scan.string read).run done (cs.flatMap escapedChar ++ rest)
      = (Scan.string ((cs.flatMap escapedChar).reverse ++ read)).run done rest := by
  induction cs generalizing read with
  | nil => rfl
  | cons c cs ih =>
    rw [List.flatMap_cons, List.append_assoc, run_escapedChar, ih, List.reverse_append,
      List.append_assoc]

/-- **A string** is the token of that text. -/
theorem spells_text (s : String) : Spells (writeText s) [.scalar (.text s)] := by
  intro done rest _
  show (Scan.string []).run done ((s.toList.flatMap escapedChar ++ ['"']) ++ rest) = _
  rw [List.append_assoc, run_escaped, List.append_nil]
  rw [List.singleton_append, Scan.run, Scan.step, if_pos rfl, List.reverse_reverse,
    stringOfRaw?_escaped]
  rfl

/-! ## Values -/

/-- What the library writes: every number is a natural one, and every string and every name a
    text. -/
inductive Written : Json → Prop where
  | null : Written .null
  | bool (b : Bool) : Written (.bool b)
  | number (n : Nat) : Written (.number n)
  | text (s : String) : Written (.text s)
  | array {items : List Json} (h : ∀ j ∈ items, Written j) : Written (.array items)
  | object {members : List (String × Json)} (h : ∀ m ∈ members, Written m.2) :
      Written (.object members)

theorem spells_null : Spells (Token.write (.scalar .null)) [.scalar .null] :=
  spells_word (by decide) (List.all_eq_true.mp (by decide)) rfl

theorem spells_bool (b : Bool) : Spells (Token.write (.scalar (.bool b))) [.scalar (.bool b)] := by
  cases b with
  | false => exact spells_word (by decide) (List.all_eq_true.mp (by decide)) rfl
  | true => exact spells_word (by decide) (List.all_eq_true.mp (by decide)) rfl

/-- An array around its items. -/
theorem Spells.array (h : Spells cs ts) :
    Spells ('[' :: (cs ++ [']'])) (.openArray :: (ts ++ [.closeArray])) :=
  (h.append (endsWord_cons rfl []) (spells_nil.mark_cons fun _ => rfl)).mark_cons fun _ => rfl

/-- An object around its members. -/
theorem Spells.object (h : Spells cs ts) :
    Spells ('\x7b' :: (cs ++ ['\x7d'])) (.openObject :: (ts ++ [.closeObject])) :=
  (h.append (endsWord_cons rfl []) (spells_nil.mark_cons fun _ => rfl)).mark_cons fun _ => rfl

/-! ## The compact form -/

variable {j : Json} {js : List Json} {ms : List (String × Json)}

/-- What comes behind an item is a comma, or nothing. -/
theorem endsWord_itemTail (js : List Json) :
    EndsWord ((itemTailTokens js).flatMap Token.write) := by
  cases js with
  | nil => exact fun c hc => absurd hc (Option.not_mem_none c)
  | cons j js => exact endsWord_cons rfl _

theorem spells_itemTail (h : ∀ j ∈ js, Spells j.compactChars j.tokens) :
    Spells ((itemTailTokens js).flatMap Token.write) (itemTailTokens js) := by
  induction js with
  | nil => exact spells_nil
  | cons j js ih =>
    rw [List.forall_mem_cons] at h
    have hnext : Spells (j.compactChars ++ (itemTailTokens js).flatMap Token.write)
        (j.tokens ++ itemTailTokens js) := h.1.append (endsWord_itemTail js) (ih h.2)
    rw [compactChars, ← List.flatMap_append] at hnext
    exact hnext.mark_cons fun _ => rfl

/-- The items of an array, with commas between them. -/
theorem spells_items (h : ∀ j ∈ js, Spells j.compactChars j.tokens) :
    Spells ((itemTokens js).flatMap Token.write) (itemTokens js) := by
  cases js with
  | nil => exact spells_nil
  | cons j js =>
    rw [List.forall_mem_cons] at h
    rw [itemTokens, List.flatMap_append]
    exact h.1.append (endsWord_itemTail js) (spells_itemTail h.2)

/-- A name, a colon and the value. -/
theorem spells_oneMember {m : String × Json} (h : Spells m.2.compactChars m.2.tokens) :
    Spells ((oneMemberTokens m).flatMap Token.write) (oneMemberTokens m) := by
  obtain ⟨name, j⟩ := m
  have hvalue : Spells (':' :: j.compactChars) (.colon :: j.tokens) := h.mark_cons fun _ => rfl
  exact (spells_text name).append (endsWord_cons rfl _) hvalue

theorem endsWord_memberTail (ms : List (String × Json)) :
    EndsWord ((memberTailTokens ms).flatMap Token.write) := by
  cases ms with
  | nil => exact fun c hc => absurd hc (Option.not_mem_none c)
  | cons m ms => exact endsWord_cons rfl _

theorem spells_memberTail (h : ∀ m ∈ ms, Spells m.2.compactChars m.2.tokens) :
    Spells ((memberTailTokens ms).flatMap Token.write) (memberTailTokens ms) := by
  induction ms with
  | nil => exact spells_nil
  | cons m ms ih =>
    rw [List.forall_mem_cons] at h
    have hnext := (spells_oneMember h.1).append (endsWord_memberTail ms) (ih h.2)
    rw [← List.flatMap_append] at hnext
    exact hnext.mark_cons fun _ => rfl

/-- The members of an object, with commas between them. -/
theorem spells_members (h : ∀ m ∈ ms, Spells m.2.compactChars m.2.tokens) :
    Spells ((memberTokens ms).flatMap Token.write) (memberTokens ms) := by
  cases ms with
  | nil => exact spells_nil
  | cons m ms =>
    rw [List.forall_mem_cons] at h
    rw [memberTokens, List.flatMap_append]
    exact (spells_oneMember h.1).append (endsWord_memberTail ms) (spells_memberTail h.2)

/-- **The compact form** spells the tokens of the value. -/
theorem spells_compact (h : Written j) : Spells j.compactChars j.tokens := by
  induction h with
  | null => exact spells_null
  | bool b =>
    rw [compactChars, tokens, List.flatMap_singleton]
    exact spells_bool b
  | number n =>
    rw [compactChars, tokens, List.flatMap_singleton]
    exact spells_number n
  | text s =>
    rw [compactChars, tokens, List.flatMap_singleton]
    exact spells_text s
  | @array items _ ih =>
    rw [compactChars, tokens, List.cons_append, List.flatMap_cons, List.flatMap_append]
    exact (spells_items ih).array
  | @object members _ ih =>
    rw [compactChars, tokens, List.cons_append, List.flatMap_cons, List.flatMap_append]
    exact (spells_members ih).object

/-! ## The indented form -/

theorem endsWord_indentedItemTail (depth : Nat) (js : List Json) :
    EndsWord (indentedItemTail depth js) := by
  cases js with
  | nil => exact fun c hc => absurd hc (Option.not_mem_none c)
  | cons j js => exact endsWord_cons rfl _

/-- Each item stands on a line of its own. -/
theorem spells_indentedItemTail {depth : Nat}
    (h : ∀ j ∈ js, Spells (j.indentedChars depth) j.tokens) :
    Spells (indentedItemTail depth js) (itemTailTokens js) := by
  induction js with
  | nil => exact spells_nil
  | cons j js ih =>
    rw [List.forall_mem_cons] at h
    have hnext := (h.1.append (endsWord_indentedItemTail depth js) (ih h.2)).newLine_append depth
    rw [← List.append_assoc] at hnext
    exact hnext.mark_cons fun _ => rfl

theorem endsWord_indentedMemberTail (depth : Nat) (ms : List (String × Json)) :
    EndsWord (indentedMemberTail depth ms) := by
  cases ms with
  | nil => exact fun c hc => absurd hc (Option.not_mem_none c)
  | cons m ms => exact endsWord_cons rfl _

/-- Behind the colon stands a space. -/
theorem spells_indentedMember {depth : Nat} {m : String × Json}
    (h : Spells (m.2.indentedChars depth) m.2.tokens) :
    Spells (indentedMember depth m) (oneMemberTokens m) := by
  obtain ⟨name, j⟩ := m
  have hvalue : Spells (':' :: ' ' :: j.indentedChars depth) (.colon :: j.tokens) :=
    (h.space_cons rfl).mark_cons fun _ => rfl
  rw [indentedMember, List.append_assoc]
  exact (spells_text name).append (endsWord_cons rfl _) hvalue

theorem spells_indentedMemberTail {depth : Nat}
    (h : ∀ m ∈ ms, Spells (m.2.indentedChars depth) m.2.tokens) :
    Spells (indentedMemberTail depth ms) (memberTailTokens ms) := by
  induction ms with
  | nil => exact spells_nil
  | cons m ms ih =>
    rw [List.forall_mem_cons] at h
    have hnext := ((spells_indentedMember h.1).append (endsWord_indentedMemberTail depth ms)
      (ih h.2)).newLine_append depth
    rw [← List.append_assoc] at hnext
    exact hnext.mark_cons fun _ => rfl

/-- Whatever stands on lines of its own inside brackets ends with the line of the bracket. -/
theorem Spells.append_newLine (h : Spells cs ts) (depth : Nat) :
    Spells (cs ++ newLine depth) ts := by
  have hline : Spells (newLine depth ++ []) [] := spells_nil.newLine_append depth
  rw [List.append_nil] at hline
  have hboth := h.append (endsWord_cons rfl _) hline
  rwa [List.append_nil] at hboth

/-- **The indented form** spells the tokens of the value, however far in it stands. -/
theorem spells_indented (h : Written j) (depth : Nat) :
    Spells (j.indentedChars depth) j.tokens := by
  induction h generalizing depth with
  | null => exact spells_null
  | bool b => exact spells_bool b
  | number n => exact spells_number n
  | text s => exact spells_text s
  | @array items _ ih =>
    cases items with
    | nil => exact spells_nil.array
    | cons j js =>
      obtain ⟨hj, hjs⟩ := List.forall_mem_cons.mp fun i hi => ih i hi (depth + 1)
      have hitems : Spells (indentedItems (depth + 1) (j :: js)) (itemTokens (j :: js)) := by
        rw [indentedItems, List.append_assoc]
        exact (hj.append (endsWord_indentedItemTail _ js)
          (spells_indentedItemTail hjs)).newLine_append _
      rw [indentedChars, tokens, List.append_assoc ['['], List.append_assoc ['[']]
      exact (hitems.append_newLine depth).array
  | @object members _ ih =>
    cases members with
    | nil => exact spells_nil.object
    | cons m ms =>
      obtain ⟨hm, hms⟩ := List.forall_mem_cons.mp fun i hi => ih i hi (depth + 1)
      have hmembers : Spells (indentedMembers (depth + 1) (m :: ms)) (memberTokens (m :: ms)) := by
        rw [indentedMembers, List.append_assoc]
        exact ((spells_indentedMember hm).append (endsWord_indentedMemberTail _ ms)
          (spells_indentedMemberTail hms)).newLine_append _
      rw [indentedChars, tokens, List.append_assoc ['\x7b'], List.append_assoc ['\x7b']]
      exact (hmembers.append_newLine depth).object

end Redline.Json
