import Clearance.Proofs.Text.Quoted
import Clearance.Text.Layout

/-
  What is written into one line can be told apart.

  A way of writing marks the end of what it writes if no text
  starts with two different values, or with the same value
  and something different behind it. Quoted texts and truth
  values are written so, whatever characters are quoted; and
  therefore so are the entries of a table, and the table.
  Each of the entries can be seen in the table.

  Key definitions include:
    * `Text.MarksEnd`
    * `Text.tableRest`
    * `Text.Shows`

  Key theorems include:
    * `Text.table_eq`
    * `Text.marksEnd_quote`
    * `Text.marksEnd_tableEntry`
    * `Text.marksEnd_table`
    * `Text.shows_table`
-/

------------------------------------------------------------
-- Texts Written Out
------------------------------------------------------------

namespace Clearance

namespace Text

theorem truth_eq
    (outcome : Bool) :
    truth outcome =
      if outcome then "True" else "False" := by
  cases outcome with
  | true => rfl
  | false => rfl

/- An entry is its quoted key with true or false. -/
theorem tableEntry_eq
    (entry : String × Bool) :
    tableEntry entry =
      quote entry.1 ++ ": " ++
        if entry.2 then "True" else "False" := by
  rw [tableEntry, truth_eq]

/- A table in one line says true or false of each key. -/
theorem table_eq
    (entries : List (String × Bool)) :
    table entries =
      "\x7b" ++
        ", ".intercalate
          (entries.map fun entry =>
            quote entry.1 ++ ": " ++
              if entry.2 then "True" else "False") ++
        "\x7d" := by
  rw [table, funext tableEntry_eq]

end Text

end Clearance

------------------------------------------------------------
-- Writing That Marks Its End
------------------------------------------------------------

namespace Clearance

namespace Text

variable {α : Type}

/-
  What a value is written as tells the value, and can be told
  from whatever stands behind it.
-/
def MarksEnd (write : α → String) : Prop :=
  ∀ {left right : α} {behind behind' : String},
    write left ++ behind = write right ++ behind' →
      left = right ∧ behind = behind'

/- With nothing behind, different values differ. -/
theorem MarksEnd.injective
    {write : α → String}
    (hMarks : MarksEnd write) :
    Function.Injective write := by
  intro left right hEq
  have hEmpty : write left ++ "" = write right ++ "" := by
    rw [hEq]
  exact (hMarks hEmpty).1

/- A quoted text can be read from the front. -/
theorem marksEnd_quote : MarksEnd quote := by
  intro left right behind behind' hEq
  have hLetters :
      Quoted.encode left.toList ++ behind.toList =
        Quoted.encode right.toList ++ behind'.toList := by
    simpa [quote] using congrArg String.toList hEq
  have hRead := congrArg Quoted.decode hLetters
  rw [Quoted.decode_encode, Quoted.decode_encode] at hRead
  rcases Prod.mk.inj (Option.some.inj hRead) with
    ⟨hText, hBehind⟩
  exact ⟨String.toList_inj.mp hText,
    String.toList_inj.mp hBehind⟩

theorem marksEnd_truth : MarksEnd truth := by
  intro left right behind behind' hEq
  -- The two words differ in their first letters.
  have hValue : left = right := by
    have hLetters := congrArg String.toList hEq
    revert hLetters
    cases left <;> cases right <;> simp [truth]
  subst hValue
  exact ⟨rfl, (String.append_right_inj _).mp hEq⟩

end Text

end Clearance

------------------------------------------------------------
-- Tables
------------------------------------------------------------

namespace Clearance

namespace Text

theorem marksEnd_tableEntry : MarksEnd tableEntry := by
  rintro ⟨key, value⟩ ⟨key', value'⟩ behind behind' hEq
  simp only [tableEntry, String.append_assoc] at hEq
  rcases marksEnd_quote hEq with ⟨hKey, hRest⟩
  rcases marksEnd_truth
      ((String.append_right_inj ": ").mp hRest) with
    ⟨hValue, hBehind⟩
  exact ⟨by rw [hKey, hValue], hBehind⟩

/- What stands behind an entry: more entries, and the end. -/
def tableRest : List (String × Bool) → String
  | [] => "\x7d"
  | entry :: rest =>
    ", " ++ (tableEntry entry ++ tableRest rest)

/- A table opens with its first entry, if it has one. -/
theorem table_cons
    (entry : String × Bool)
    (rest : List (String × Bool)) :
    table (entry :: rest) =
      "\x7b" ++ (tableEntry entry ++ tableRest rest) := by
  have hEntries :
      ", ".intercalate ((entry :: rest).map tableEntry) ++
          "\x7d" =
        tableEntry entry ++ tableRest rest := by
    induction rest generalizing entry with
    | nil =>
        simp [tableRest]
    | cons next rest ih =>
        rw [List.map_cons, List.map_cons,
          String.intercalate_cons_cons, ← List.map_cons,
          String.append_assoc, String.append_assoc, ih,
          tableRest]
  rw [table, String.append_assoc, hEntries]

theorem table_nil : table [] = "\x7b" ++ "\x7d" := by
  simp [table]

/- The end of a table is not taken for an entry. -/
theorem closing_ne_tableEntry
    (entry : String × Bool)
    (behind rest : String) :
    "\x7d" ++ behind ≠ tableEntry entry ++ rest := by
  intro hEq
  have hLetters := congrArg String.toList hEq
  simp only [tableEntry, quote, Quoted.encode,
    String.toList_append, String.toList_ofList,
    List.cons_append] at hLetters
  have hFirst := (List.cons.inj hLetters).1
  rcases Quoted.delimiter_cases entry.1.toList with
    hQuote | hQuote
  · rw [hQuote] at hFirst
    exact absurd hFirst (by decide)
  · rw [hQuote] at hFirst
    exact absurd hFirst (by decide)

theorem marksEnd_tableRest : MarksEnd tableRest := by
  intro left
  induction left with
  | nil =>
      intro right behind behind' hEq
      cases right with
      | nil =>
          exact ⟨rfl, (String.append_right_inj _).mp hEq⟩
      | cons entry rest =>
          have hLetters := congrArg String.toList hEq
          simp [tableRest] at hLetters
  | cons entry rest ih =>
      intro right behind behind' hEq
      cases right with
      | nil =>
          have hLetters := congrArg String.toList hEq
          simp [tableRest] at hLetters
      | cons entry' rest' =>
          simp only [tableRest, String.append_assoc] at hEq
          rcases marksEnd_tableEntry
              ((String.append_right_inj ", ").mp hEq) with
            ⟨hEntry, hRest⟩
          rcases ih hRest with ⟨hEntries, hBehind⟩
          exact ⟨by rw [hEntry, hEntries], hBehind⟩

/- A table tells its entries in order, and its end. -/
theorem marksEnd_table : MarksEnd table := by
  intro left right behind behind' hEq
  cases left with
  | nil =>
      cases right with
      | nil =>
          exact ⟨rfl, (String.append_right_inj _).mp hEq⟩
      | cons entry rest =>
          simp only [table_nil, table_cons,
            String.append_assoc,
            String.append_right_inj] at hEq
          exact absurd hEq (closing_ne_tableEntry _ _ _)
  | cons entry rest =>
      cases right with
      | nil =>
          simp only [table_nil, table_cons,
            String.append_assoc,
            String.append_right_inj] at hEq
          exact absurd hEq.symm (closing_ne_tableEntry _ _ _)
      | cons entry' rest' =>
          simp only [table_cons, String.append_assoc,
            String.append_right_inj] at hEq
          rcases marksEnd_tableEntry hEq with
            ⟨hEntry, hRest⟩
          rcases marksEnd_tableRest hRest with
            ⟨hEntries, hBehind⟩
          exact ⟨by rw [hEntry, hEntries], hBehind⟩

end Text

end Clearance

------------------------------------------------------------
-- Entries That Are Shown
------------------------------------------------------------

namespace Clearance

namespace Text

/-
  Somewhere in a text stands a quoted key, a colon, and true
  or false.
-/
def Shows
    (text : String)
    (entry : String × Bool) : Prop :=
  ∃ before behind,
    text =
      before ++
        (quote entry.1 ++ ": " ++
          if entry.2 then "True" else "False") ++
        behind

namespace Shows

variable {text : String}
variable {entry : String × Bool}

theorem append_left
    (hShows : Shows text entry)
    (front : String) :
    Shows (front ++ text) entry := by
  rcases hShows with ⟨before, behind, hText⟩
  refine ⟨front ++ before, behind, ?_⟩
  rw [hText]
  simp only [String.append_assoc]

theorem append_right
    (hShows : Shows text entry)
    (back : String) :
    Shows (text ++ back) entry := by
  rcases hShows with ⟨before, behind, hText⟩
  refine ⟨before, behind ++ back, ?_⟩
  rw [hText, String.append_assoc]

end Shows

theorem shows_tableEntry
    (entry : String × Bool) :
    Shows (tableEntry entry) entry := by
  refine ⟨"", "", ?_⟩
  rw [tableEntry_eq, String.empty_append,
    String.append_empty]

theorem shows_tableRest
    {entries : List (String × Bool)}
    {entry : String × Bool}
    (hMem : entry ∈ entries) :
    Shows (tableRest entries) entry := by
  induction entries with
  | nil =>
      cases hMem
  | cons next rest ih =>
      rw [tableRest]
      apply Shows.append_left
      rcases List.mem_cons.mp hMem with hHead | hRest
      · rw [hHead]
        exact (shows_tableEntry next).append_right _
      · exact (ih hRest).append_left _

/- A table shows every entry that it has. -/
theorem shows_table
    {entries : List (String × Bool)}
    {entry : String × Bool}
    (hMem : entry ∈ entries) :
    Shows (table entries) entry := by
  cases entries with
  | nil =>
      cases hMem
  | cons next rest =>
      rw [table_cons]
      apply Shows.append_left
      rcases List.mem_cons.mp hMem with hHead | hRest
      · rw [hHead]
        exact (shows_tableEntry next).append_right _
      · exact (shows_tableRest hRest).append_left _

end Text

end Clearance
