import Switchyard.Proofs.PubSub.Topics

/-!
# Switchyard.Proofs.PubSub.Filter

**Building a request topic and reading it are inverse to each other, and the subscription for a
module brings what is read as a request to that module** (`Topics.requests_read_back`).

* A text is the topic of some parts exactly when these are its levels (`levels_eq_iff`), so reading
  a topic is a condition on its levels (`Topics.parseRequest?_eq_some_iff_levels`).
* `matchesTopic` is the broker's rule for filters. A filter whose levels are plain but for a `+` at
  the end matches the topics with one level in the place of the `+` (`matchLevels_any_iff`).

The condition on levels is what both sides have in common: the topics that are read as requests to a
module, and those that its subscription brings, are both those with certain levels. They differ in
the last one, which the subscription lets be empty and the reader does not.
-/

namespace Switchyard.PubSub

/-! ### Levels, both ways -/

/-- No level holds a slash. By induction over the text, where a character is put in front of the
first level of what follows. -/
theorem slash_notMem_of_mem_levels {text level : List Char} (h : level ∈ levels text) :
    '/' ∉ level := by
  induction text generalizing level with
  | nil =>
      rw [List.mem_singleton.mp h]
      exact List.not_mem_nil
  | cons c rest ih =>
      unfold levels at h
      by_cases hc : c = '/'
      · rw [if_pos hc] at h
        rcases List.mem_cons.mp h with rfl | h
        · exact List.not_mem_nil
        · exact ih h
      · rw [if_neg hc] at h
        cases hrest : levels rest with
        | nil =>
            rw [hrest] at h
            rw [List.mem_singleton.mp h]
            simpa using Ne.symm hc
        | cons first more =>
            simp only [hrest] at h ih
            rcases List.mem_cons.mp h with rfl | h
            · simpa [Ne.symm hc] using ih List.mem_cons_self
            · exact ih (List.mem_cons_of_mem _ h)

/-- Joining the levels of a topic gives the topic. -/
theorem joinLevels_of_levels {topic : String} {parts : List String}
    (h : levels topic.toList = parts.map String.toList) : joinLevels parts = topic := by
  have hslash : ("/" : String).toList = ['/'] := rfl
  rw [← String.toList_inj, joinLevels, String.toList_intercalate, hslash, ← h, levels_eq_splitOn]
  exact List.intercalate_splitOn '/'

/-- The levels of a topic are the parts without slashes that it is joined from. -/
theorem levels_eq_iff {topic : String} {parts : List String} (hne : parts ≠ []) :
    levels topic.toList = parts.map String.toList ↔
      topic = joinLevels parts ∧ ∀ part ∈ parts, '/' ∉ part.toList := by
  constructor
  · intro h
    refine ⟨(joinLevels_of_levels h).symm, ?_⟩
    intro part hpart
    have hlevel : part.toList ∈ levels topic.toList := by
      rw [h]
      exact List.mem_map_of_mem hpart
    exact slash_notMem_of_mem_levels hlevel
  · rintro ⟨rfl, hparts⟩
    exact levels_joinLevels hne hparts

/-! ### Filters -/

/-- The level of a filter that stands for any one level of a topic. -/
def anyLevel : List Char := ['+']

/-- The last level of a filter that stands for all levels that follow, none included. -/
def anyLevels : List Char := ['#']

/-- Whether the levels of a filter match those of a topic. Each level of a filter is a name, any one
level, or all that follow. -/
def matchLevels : List (List Char) → List (List Char) → Bool
  | [], topic => topic.isEmpty
  | f :: filter, [] => f = anyLevels && filter.isEmpty
  | f :: filter, level :: topic =>
    f = anyLevels && filter.isEmpty ||
      (f = anyLevel || f = level) && matchLevels filter topic

/-- Whether a subscription brings what is published on a topic. Topics that begin with a dollar sign
are the broker's own, which no filter matches that begins with a wildcard. -/
def matchesTopic (filter topic : String) : Bool :=
  let filter := levels filter.toList
  let reserved := topic.toList.head? = some '$' && (filter.head? = some anyLevel ||
    filter.head? = some anyLevels)
  !reserved && matchLevels filter (levels topic.toList)

/-- A name that stands for itself in a filter. -/
def IsPlain (name : String) : Prop :=
  '+' ∉ name.toList ∧ '#' ∉ name.toList

instance (name : String) : Decidable (IsPlain name) :=
  inferInstanceAs (Decidable (_ ∧ _))

theorem IsPlain.ne_anyLevel {name : String} (h : IsPlain name) : name.toList ≠ anyLevel := by
  intro heq
  exact h.1 (heq ▸ List.mem_singleton_self '+')

theorem IsPlain.ne_anyLevels {name : String} (h : IsPlain name) : name.toList ≠ anyLevels := by
  intro heq
  exact h.2 (heq ▸ List.mem_singleton_self '#')

/-- A filter of plain levels and one that stands for any level matches the topics that have some
level there and are equal to it elsewhere. By induction on the plain levels. -/
theorem matchLevels_any_iff {parts : List String} (h : ∀ part ∈ parts, IsPlain part)
    (topic : List (List Char)) :
    matchLevels (parts.map String.toList ++ [anyLevel]) topic = true ↔
      ∃ level, topic = parts.map String.toList ++ [level] := by
  have hany : anyLevel ≠ anyLevels := by decide
  induction parts generalizing topic with
  | nil =>
      cases topic with
      | nil => simp [matchLevels, hany]
      | cons level rest => simp [matchLevels, hany]
  | cons part parts ih =>
      obtain ⟨hpart, hparts⟩ := List.forall_mem_cons.mp h
      cases topic with
      | nil => simp [matchLevels]
      | cons level rest =>
          simp only [List.map_cons, List.cons_append, matchLevels, hpart.ne_anyLevel,
            hpart.ne_anyLevels, decide_false, Bool.false_and, Bool.false_or, Bool.and_eq_true,
            decide_eq_true_eq, ih hparts, List.cons.injEq]
          constructor
          · rintro ⟨rfl, last, rfl⟩
            exact ⟨last, rfl, rfl⟩
          · rintro ⟨last, rfl, rfl⟩
            exact ⟨rfl, last, rfl⟩

namespace Topics

variable {t : Topics} {topic module action : String}

/-! ### Reading a topic -/

/-- The levels of the request topics of a module, without the last one. -/
def requestStem (t : Topics) (module : String) : List String :=
  [root, t.controller, "request", module, "action"]

/-- Reading a topic is a condition on its levels: there are six, of which four are given and two are
not empty. -/
theorem parseRequest?_eq_some_iff_levels :
    t.parseRequest? topic = some (module, action) ↔
      levels topic.toList = (t.requestStem module ++ [action]).map String.toList ∧
        module ≠ "" ∧ action ≠ "" := by
  constructor
  · intro h
    unfold parseRequest? at h
    split at h
    · rename_i a b c m d x hlevels
      obtain ⟨⟨rfl, rfl, rfl, rfl, hm, hx⟩, heq⟩ := Option.ite_none_right_eq_some.mp h
      obtain ⟨rfl, rfl⟩ := Prod.mk.inj (Option.some.inj heq)
      refine ⟨?_, ?_, ?_⟩
      · rw [hlevels]
        simp [requestStem]
      · simpa [← String.toList_eq_nil_iff] using hm
      · simpa [← String.toList_eq_nil_iff] using hx
    · cases h
  · rintro ⟨hlevels, hm, hx⟩
    have hnil {s : String} (h : s ≠ "") : s.toList ≠ [] := by simpa using h
    unfold parseRequest?
    rw [hlevels]
    refine (if_pos ⟨rfl, rfl, rfl, rfl, hnil hm, hnil hx⟩).trans ?_
    rw [String.ofList_toList, String.ofList_toList]

/-- A topic is read as the request that it was built for, and no other topic is. -/
theorem parseRequest?_eq_some_iff (ht : '/' ∉ t.controller.toList) :
    t.parseRequest? topic = some (module, action) ↔
      topic = t.request module action ∧ IsLevel module ∧ IsLevel action := by
  constructor
  · intro h
    obtain ⟨hlevels, hm, hx⟩ := parseRequest?_eq_some_iff_levels.mp h
    obtain ⟨htopic, hslash⟩ := (levels_eq_iff (by simp)).mp hlevels
    exact ⟨htopic, ⟨hm, hslash module (by simp [requestStem])⟩, ⟨hx, hslash action (by simp)⟩⟩
  · rintro ⟨rfl, hm, hx⟩
    exact parseRequest?_request ht hm hx

/-! ### Subscriptions -/

theorem levels_requestFilter (ht : '/' ∉ t.controller.toList) (hm : '/' ∉ module.toList) :
    levels (t.requestFilter module).toList =
      (t.requestStem module).map String.toList ++ [anyLevel] := by
  have hparts : ∀ part ∈ t.requestStem module ++ ["+"], '/' ∉ part.toList := by
    have hroot : '/' ∉ root.toList := by decide
    have hrequest : '/' ∉ "request".toList := by decide
    have haction : '/' ∉ "action".toList := by decide
    have hplus : '/' ∉ "+".toList := by decide
    simp only [requestStem, List.cons_append, List.nil_append, List.forall_mem_cons]
    exact ⟨hroot, ht, hrequest, hm, haction, hplus, by simp⟩
  have hlevels := levels_joinLevels (by simp) hparts
  rw [List.map_append] at hlevels
  exact hlevels

/-- The subscription for a module brings the topics with one level in the place of the action. None
of them begins with a dollar sign, as the filter does not either. -/
theorem matchesTopic_requestFilter_iff (ht : '/' ∉ t.controller.toList)
    (hm : '/' ∉ module.toList) (hcontroller : IsPlain t.controller) (hmodule : IsPlain module) :
    matchesTopic (t.requestFilter module) topic = true ↔
      ∃ level, levels topic.toList = (t.requestStem module).map String.toList ++ [level] := by
  have hplain : ∀ part ∈ t.requestStem module, IsPlain part := by
    have hroot : IsPlain root := by decide
    have hrequest : IsPlain "request" := by decide
    have haction : IsPlain "action" := by decide
    simp only [requestStem, List.forall_mem_cons]
    exact ⟨hroot, hcontroller, hrequest, hmodule, haction, by simp⟩
  have hhead : (levels (t.requestFilter module).toList).head? = some root.toList := by
    rw [levels_requestFilter ht hm]
    rfl
  have hany : root.toList ≠ anyLevel ∧ root.toList ≠ anyLevels := by decide
  unfold matchesTopic
  simp only [hhead, Option.some.injEq, hany.1, hany.2, decide_false, Bool.or_false, Bool.and_false,
    Bool.not_false, Bool.true_and]
  rw [levels_requestFilter ht hm, matchLevels_any_iff hplain]

/-- **Building a request topic and reading it are inverse to each other.** A text is read as the
request for a module and an action exactly when it is the topic built for them and both are names of
one level. And where neither the controller nor the module holds a wildcard, the subscription for
the module brings a topic, with something in the place of the action, exactly when the topic is read
as a request to that module. -/
theorem requests_read_back (t : Topics) (ht : '/' ∉ t.controller.toList) (topic : String) :
    (∀ module action, t.parseRequest? topic = some (module, action) ↔
      topic = t.request module action ∧ IsLevel module ∧ IsLevel action) ∧
    (IsPlain t.controller → ∀ module, IsLevel module → IsPlain module →
      (matchesTopic (t.requestFilter module) topic = true ∧
          (levels topic.toList).getLast? ≠ some [] ↔
        ∃ action, t.parseRequest? topic = some (module, action))) := by
  refine ⟨fun module action => parseRequest?_eq_some_iff ht, ?_⟩
  intro hcontroller module hlevel hmodule
  rw [matchesTopic_requestFilter_iff ht hlevel.2 hcontroller hmodule]
  simp only [parseRequest?_eq_some_iff_levels]
  constructor
  · rintro ⟨⟨level, hlevels⟩, hlast⟩
    have hne : level ≠ [] := by simpa [hlevels] using hlast
    refine ⟨String.ofList level, ?_, hlevel.1, ?_⟩
    · simpa using hlevels
    · simpa [← String.toList_eq_nil_iff] using hne
  · rintro ⟨action, hlevels, -, hne⟩
    rw [hlevels, List.map_append, List.map_singleton]
    refine ⟨⟨action.toList, rfl⟩, ?_⟩
    simpa [← String.toList_eq_nil_iff] using hne

/-- A request for the settings of the `dns` module. -/
theorem requests_read_back_dns :
    '/' ∉ "0000000a000b".toList ∧ IsPlain "0000000a000b" ∧ IsLevel "dns" ∧ IsPlain "dns" ∧
      (⟨"0000000a000b"⟩ : Topics).parseRequest?
        "cfgbus/0000000a000b/request/dns/action/get_settings" = some ("dns", "get_settings") ∧
      matchesTopic "cfgbus/0000000a000b/request/dns/action/+"
        "cfgbus/0000000a000b/request/dns/action/get_settings" = true := by
  have ht : '/' ∉ "0000000a000b".toList := by decide
  have hcontroller : IsPlain "0000000a000b" := by decide
  have hlevel : IsLevel "dns" := by decide
  have hmodule : IsPlain "dns" := by decide
  obtain ⟨hread, hbrought⟩ := requests_read_back ⟨"0000000a000b"⟩ ht
    "cfgbus/0000000a000b/request/dns/action/get_settings"
  have hparsed := (hread "dns" "get_settings").mpr ⟨rfl, hlevel, by decide⟩
  exact ⟨ht, hcontroller, hlevel, hmodule, hparsed,
    ((hbrought hcontroller "dns" hlevel hmodule).mpr ⟨_, hparsed⟩).1⟩

/-- The subscription also brings a topic with nothing in the place of the action, which is not read
as a request. -/
example :
    matchesTopic "cfgbus/c/request/dns/action/+" "cfgbus/c/request/dns/action/" = true ∧
      (⟨"c"⟩ : Topics).parseRequest? "cfgbus/c/request/dns/action/" = none := by decide

end Topics
end Switchyard.PubSub
