import Mathlib.Data.List.DropRight
import Switchyard.Modules.Dns
import Switchyard.Modules.Echo
import Switchyard.Proofs.Route.Registry
import Switchyard.Settings.AllowList

/-!
# Switchyard.Proofs.Settings.AllowList

**Which modules are registered** (`registered_iff_admitted`): those that the setting admits, each
name by the last factory that has it, and no others.

* `Names` — a text names a module when one of its items, the pieces between its commas, is the name
  up to blanks at its ends. `mem_allowList_iff`: these names, less the empty one, are the list.
* `Admits` — what the setting admits. One that is not set admits every name, and so does a text that
  names nothing (`bare_comma_registers_all`); any other text admits the names on it.

The list is made by cutting the text at its commas, trimming each item and dropping those that are
empty then. That the cut is the library's `splitOn` (`items_eq_splitOn`) and that trimming is told
by what is left of it (`TrimsTo`, `TrimsTo.trim_eq`) takes the two loops out of what follows.
-/

namespace Switchyard.Settings

open Route

variable {s t : List Char} {text name : String} {setting : Option String}

/-! ### Trimming -/

/-- The second text is the first one without the blanks at its ends: what was cut off is blank, and
what is left neither begins nor ends with a blank. -/
structure TrimsTo (s t : List Char) : Prop where
  cut : ∃ left right, s = left ++ t ++ right ∧ ∀ c ∈ left ++ right, Text.isSpace c = true
  head : ∀ c, t.head? = some c → Text.isSpace c = false
  last : ∀ c, t.getLast? = some c → Text.isSpace c = false

theorem trim_eq_rdropWhile (s : List Char) :
    trim s = (s.dropWhile Text.isSpace).rdropWhile Text.isSpace := rfl

/-- Trimming gives such a text. What is cut off at the end leaves the beginning as it was, unless
nothing is left at all. -/
theorem trimsTo_trim (s : List Char) : TrimsTo s (trim s) := by
  rw [trim_eq_rdropWhile]
  generalize hrest : s.dropWhile Text.isSpace = rest
  refine ⟨⟨s.takeWhile Text.isSpace, rest.rtakeWhile Text.isSpace, ?_, ?_⟩, ?_, ?_⟩
  · rw [List.append_assoc, List.rdropWhile_append_rtakeWhile, ← hrest,
      List.takeWhile_append_dropWhile]
  · intro c hc
    rcases List.mem_append.mp hc with hc | hc
    · exact List.mem_takeWhile_imp hc
    · exact List.mem_rtakeWhile_imp hc
  · intro c hc
    -- What is left begins as it did before its end was cut off.
    obtain ⟨behind, hbehind⟩ := List.rdropWhile_prefix Text.isSpace rest
    have hhead : rest.head? = some c := by rw [← hbehind, List.head?_append, hc, Option.some_or]
    have hnot := List.head?_dropWhile_not Text.isSpace s
    rw [hrest, hhead] at hnot
    exact hnot
  · intro c hc
    have hne : rest.rdropWhile Text.isSpace ≠ [] := by
      rintro hnil
      rw [hnil] at hc
      cases hc
    have hlast := List.rdropWhile_last_not Text.isSpace rest hne
    rw [List.getLast?_eq_some_getLast hne, Option.some.injEq] at hc
    rwa [hc, Bool.not_eq_true] at hlast

theorem dropWhile_of_trimmed {right : List Char} (hright : ∀ c ∈ right, Text.isSpace c = true)
    (hhead : ∀ c, t.head? = some c → Text.isSpace c = false) :
    (t ++ right).dropWhile Text.isSpace = if t = [] then [] else t ++ right := by
  cases t with
  | nil => rw [if_pos rfl, List.nil_append, List.dropWhile_eq_nil_iff.mpr hright]
  | cons c rest =>
      rw [if_neg (List.cons_ne_nil c rest), List.cons_append,
        List.dropWhile_cons_of_neg (by simp [hhead c rfl])]

/-- There is only one such text, the one that trimming gives. -/
theorem TrimsTo.trim_eq (h : TrimsTo s t) : trim s = t := by
  obtain ⟨⟨left, right, rfl, hblank⟩, hhead, hlast⟩ := h
  have hleft : ∀ c ∈ left, Text.isSpace c = true := fun c hc =>
    hblank c (List.mem_append_left right hc)
  have hright : ∀ c ∈ right, Text.isSpace c = true := fun c hc =>
    hblank c (List.mem_append_right left hc)
  have hback : ∀ c, t.reverse.head? = some c → Text.isSpace c = false := by
    intro c hc
    exact hlast c (by rwa [List.head?_reverse] at hc)
  unfold trim
  rw [List.append_assoc, List.dropWhile_append_of_pos hleft, dropWhile_of_trimmed hright hhead]
  by_cases hempty : t = []
  · rw [if_pos hempty, hempty]
    rfl
  · rw [if_neg hempty, List.reverse_append,
      List.dropWhile_append_of_pos fun c hc => hright c (List.mem_reverse.mp hc),
      ← List.append_nil t.reverse, dropWhile_of_trimmed (by simp) hback,
      if_neg (by simpa using hempty), List.append_nil, List.reverse_reverse]

/-! ### The list -/

theorem items_eq_splitOn (text : List Char) : items text = text.splitOn ',' := by
  induction text with
  | nil => rfl
  | cons c rest ih =>
      unfold items
      rw [List.splitOn_cons_eq_if_modifyHead, ih]
      by_cases hc : c = ','
      · rw [if_pos hc, if_pos (by simpa using hc)]
      · obtain ⟨part, more, hparts⟩ := List.exists_cons_of_ne_nil (List.splitOn_ne_nil ',' rest)
        rw [if_neg hc, if_neg (by simpa using hc), hparts]
        rfl

/-- One of the items of a text is a name, with nothing but blanks around it. -/
def Names (text name : String) : Prop :=
  ∃ item ∈ text.toList.splitOn ',', TrimsTo item name.toList

/-- The list has the names in the text, but for the empty one: an item of blanks names the empty
text, and such items are dropped. -/
theorem mem_allowList_iff : name ∈ allowList (some text) ↔ name ≠ "" ∧ Names text name := by
  unfold allowList Names
  rw [Option.getD_some, items_eq_splitOn, List.mem_filterMap]
  constructor
  · rintro ⟨part, hpart, hname⟩
    obtain ⟨item, hitem, rfl⟩ := List.mem_map.mp hpart
    cases hempty : (trim item).isEmpty with
    | true =>
        rw [hempty, if_pos rfl] at hname
        cases hname
    | false =>
        rw [hempty, if_neg Bool.false_ne_true] at hname
        cases hname
        refine ⟨?_, item, hitem, ?_⟩
        · intro heq
          rw [String.ofList_eq_empty_iff.mp heq] at hempty
          cases hempty
        · rw [String.toList_ofList]
          exact trimsTo_trim item
  · rintro ⟨hne, item, hitem, htrims⟩
    refine ⟨trim item, List.mem_map_of_mem hitem, ?_⟩
    rw [htrims.trim_eq, String.ofList_toList]
    exact if_neg (by simpa using hne)

theorem allowList_unset : allowList none = [] := rfl

/-! ### What is admitted -/

/-- The names that a setting admits. The list of names is empty in two cases, and an empty list
leaves no name out. -/
inductive Admits : Option String → String → Prop
  | unset (name : String) : Admits none name
  | listed {text name : String} (hne : name ≠ "") (h : Names text name) : Admits (some text) name
  /-- A text that names nothing is like none at all. -/
  | nothingListed {text : String} (h : ∀ name, Names text name → name = "") (name : String) :
      Admits (some text) name

theorem allowed_iff_admits :
    ((allowList setting).isEmpty || (allowList setting).contains name) = true ↔
      Admits setting name := by
  rw [Bool.or_eq_true, List.isEmpty_iff, List.contains_iff_mem]
  cases setting with
  | none => exact iff_of_true (.inl allowList_unset) (.unset name)
  | some text =>
      have hnil : allowList (some text) = [] ↔ ∀ name, Names text name → name = "" := by
        rw [List.eq_nil_iff_forall_not_mem]
        refine forall_congr' fun name => ?_
        rw [mem_allowList_iff, not_and', Classical.not_not]
      rw [hnil, mem_allowList_iff]
      constructor
      · rintro (hnothing | ⟨hne, hnames⟩)
        · exact .nothingListed hnothing name
        · exact .listed hne hnames
      · intro h
        cases h with
        | listed hne h => exact .inr ⟨hne, h⟩
        | nothingListed h => exact .inl h

/-- The last of some factories that have a name. -/
inductive LastNamed (name : String) (m : Module) : List Module → Prop
  | intro {before after : List Module} (hname : m.name = name)
      (hafter : ∀ n ∈ after, n.name ≠ name) : LastNamed name m (before ++ m :: after)

theorem lastNamed_iff {factories : List Module} {m : Module} :
    factories.reverse.find? (·.name = name) = some m ↔ LastNamed name m factories := by
  rw [List.find?_eq_some_iff_append]
  constructor
  · rintro ⟨hname, back, front, hsplit, hback⟩
    have hfactories : factories = front.reverse ++ m :: back.reverse := by
      rw [← List.reverse_reverse factories, hsplit]
      simp
    rw [hfactories]
    refine .intro (by simpa using hname) fun n hn => ?_
    simpa using hback n (List.mem_reverse.mp hn)
  · rintro ⟨hname, hafter⟩
    rename_i before after
    refine ⟨by simpa using hname, after.reverse, before.reverse, by simp, fun n hn => ?_⟩
    simpa using hafter n (List.mem_reverse.mp hn)

/-- **A module is registered exactly if a factory has its name and the setting admits it**, and the
last factory of that name serves it.

No hypothesis is made on the factories: there may be several of one name, and the registry keeps one
module of each name, in the order of the names. -/
theorem registered_iff_admitted (setting : Option String) (factories : List Module) :
    let r := Registry.build (allowList setting) factories
    r.Ordered ∧
      (∀ name, name ∈ r.names ↔ Admits setting name ∧ ∃ m ∈ factories, m.name = name) ∧
      ∀ name m, r.find? name = some m ↔ Admits setting name ∧ LastNamed name m factories := by
  intro r
  have hadmitted {name : String} (h : Admits setting name) :
      r.find? name = factories.reverse.find? (·.name = name) :=
    (Registry.find?_build _ _ _).trans (if_pos (allowed_iff_admits.mpr h))
  have hexcluded {name : String} (h : ¬Admits setting name) : r.find? name = none :=
    (Registry.find?_build _ _ _).trans (if_neg (mt allowed_iff_admits.mp h))
  refine ⟨Registry.ordered_build _ _, ?_, ?_⟩
  · intro name
    rw [Registry.mem_names_iff]
    by_cases h : Admits setting name
    · rw [hadmitted h, ← Option.isSome_iff_exists, List.find?_isSome]
      simp [h]
    · simp [hexcluded h, h]
  · intro name m
    rw [← lastNamed_iff]
    by_cases h : Admits setting name
    · simp [hadmitted h, h]
    · simp [hexcluded h, h]

/-- A setting of a single comma names no module, and all are registered. -/
theorem bare_comma_registers_all :
    (Registry.build (allowList (some ",")) [Modules.Dns.module, Modules.Echo.module]).names =
        ["dns", "echo"] ∧
      ¬Names "," "dns" ∧ ¬Names "," "echo" := by
  have hnothing : allowList (some ",") = [] := by decide
  have hunnamed {name : String} (hne : name ≠ "") : ¬Names "," name := by
    intro h
    have hmem := mem_allowList_iff.mpr ⟨hne, h⟩
    rw [hnothing] at hmem
    cases hmem
  refine ⟨?_, hunnamed (by decide), hunnamed (by decide)⟩
  rw [hnothing]
  decide

end Switchyard.Settings
