import Switchyard.Bus.Worker
import Switchyard.Proofs.Call.Handle
import Switchyard.Proofs.Call.Outcome
import Switchyard.Proofs.Route.Dependence

/-!
# Switchyard.Proofs.Call.Layout

**One worker for all modules, or one for each.** A worker answers its calls from its registry and
its assembler. Of the registry, a call depends on its own module only, which all workers that have
it share (`alike_handle`). Of the assembler, it depends on what is held of its request id
(`Assembler.SameOf`), and there the layouts can differ: the shared worker has seen what calls on
other modules did to the id, and the module's own worker has not (`layouts_differ`). Where no call
on the module takes up an id of another module, the two workers mirror each other (`Mirrors`) and
give the same replies (`layouts_agree`).

Which calls come before a call matters to an assembler only by their ids, so all of the argument is
about one id at a time. `SameOf` is the relation between two assemblers that is enough for one id,
and it is kept by any chunk (`SameOf.take`): a chunk of this id does the same to both, and a chunk
of another id does nothing that this one can see. What `Mirrors` says of a history is then kept by
each call, with one lemma for the calls on the module (`Mirrors.own`) and one for the others
(`Mirrors.other`), which the module's own worker never gets.
-/

namespace Switchyard.Call

open Route

/-! ### Workers -/

/-- A call on a module. -/
structure Query where
  module : String
  action : String
  params : Json.Members

/-- What a worker holds between two calls. -/
structure Post where
  registry : Registry
  assembler : Assembler

/-- What becomes of a call on a worker. -/
def Post.handle (p : Post) (q : Query) : Handled :=
  handleCall p.registry p.assembler q.module q.action q.params

/-- The worker after a call. -/
def Post.after (p : Post) (q : Query) : Post :=
  ⟨(p.handle q).registry, (p.handle q).assembler⟩

/-- The worker that calls on a module go to: one that has all modules, or the module's own. -/
def workerOf (single : Bool) (module : String) : String :=
  if single then "all-in-one" else module

/-- The workers before the first call. -/
def start (single : Bool) (r : Registry) : String → Post :=
  fun worker => ⟨if single then r else r.only worker, .empty⟩

/-- The workers after a call. -/
def pass (single : Bool) (posts : String → Post) (q : Query) : String → Post :=
  let worker := workerOf single q.module
  Function.update posts worker ((posts worker).after q)

/-- The workers after some calls. -/
def postsAfter (single : Bool) (r : Registry) (history : List Query) : String → Post :=
  history.foldl (pass single) (start single r)

/-- The reply to a call after some others; none while chunks are expected. What else became of those
others is not looked at. -/
def replyAfter (single : Bool) (r : Registry) (history : List Query) (q : Query) :
    Option Envelope :=
  ((postsAfter single r history (workerOf single q.module)).handle q).reply

variable {r r' : Registry} {p o : Post} {q : Query} {posts : String → Post}
variable {history : List Query} {module action id : String} {data : Option Json}

theorem postsAfter_concat (single : Bool) (r : Registry) (history : List Query) (q : Query) :
    postsAfter single r (history ++ [q]) = pass single (postsAfter single r history) q := by
  simp [postsAfter]

theorem pass_self (single : Bool) (posts : String → Post) (q : Query) :
    pass single posts q (workerOf single q.module) =
      (posts (workerOf single q.module)).after q :=
  Function.update_self _ _ _

theorem pass_of_ne {single : Bool} {worker : String} (h : worker ≠ workerOf single q.module) :
    pass single posts q worker = posts worker :=
  Function.update_of_ne h _ _

/-- What a worker on the bus holds. -/
def Post.of (w : Bus.Worker) : Post :=
  ⟨w.registry, w.assembler⟩

/-- A worker on the bus answers a call on one of its objects so, and replies what comes of it. So
what is shown here of a post holds of the workers that run. -/
theorem answer_of_moduleOf? {w : Bus.Worker} {call : Bus.Invocation}
    (h : w.moduleOf? call.object = some module) :
    Post.of (w.answer call).worker = (Post.of w).after ⟨module, call.method, call.data⟩ ∧
      (w.answer call).worker.client = w.client.reply call
        ((((Post.of w).handle ⟨module, call.method, call.data⟩).reply.map replyPayloads).getD [])
        Bus.statusOk := by
  unfold Bus.Worker.answer
  rw [h]
  exact ⟨rfl, rfl⟩

/-- The worker of a registered module has one of the planned registries. -/
theorem start_mem_plan (h : module ∈ r.names) (single : Bool) :
    (start single r (workerOf single module)).registry ∈ Bus.plan single r := by
  cases single with
  | true => simp [start, Bus.plan]
  | false =>
      simp only [start, workerOf, Bus.plan, Bool.false_eq_true, if_false]
      exact List.mem_map_of_mem h

/-! ### Ids of requests -/

/-- The id that a chunk is kept under; none is kept without an id or under the empty one. Such a
chunk fails and leaves nothing behind. -/
def Chunk.key? (c : Chunk) : Option String :=
  c.id.filter (· ≠ "")

theorem Chunk.key?_eq_none_iff {c : Chunk} : c.key? = none ↔ c.id = none ∨ c.id = some "" := by
  unfold key?
  cases c.id <;> simp

theorem Chunk.key?_eq_some_iff {c : Chunk} :
    c.key? = some id ↔ c.id = some id ∧ id ≠ "" := by
  simp [key?, Option.filter_eq_some_iff]

namespace Assembler

variable {a b : Assembler} {c : Chunk} {i : String}

/-- Two assemblers hold the same of an id: the text of its chunks so far, and whether it is used up.
-/
structure SameOf (id : String) (a b : Assembler) : Prop where
  text : a.text id = b.text id
  retired : id ∈ a.retired ↔ id ∈ b.retired

theorem SameOf.refl (id : String) (a : Assembler) : SameOf id a a :=
  ⟨rfl, .rfl⟩

theorem SameOf.symm (h : SameOf id a b) : SameOf id b a :=
  ⟨h.text.symm, h.retired.symm⟩

theorem SameOf.trans {c : Assembler} (h : SameOf id a b) (h' : SameOf id b c) : SameOf id a c :=
  ⟨h.text.trans h'.text, h.retired.trans h'.retired⟩

/-- The text of an id is found among the others of another one. -/
theorem find?_others (h : id ≠ i) :
    (a.others i).find? (·.1 = id) = a.live.find? (·.1 = id) := by
  unfold others
  rw [List.find?_filter]
  congr 1
  funext entry
  by_cases hentry : entry.1 = id
  · simp [hentry, h]
  · simp [hentry]

/-- A chunk changes nothing that is held of another id. The entries may stand in another order after
it, but an id is looked up and not counted. -/
theorem sameOf_take_of_ne (h : c.key? ≠ some id) : SameOf id (a.take c).2 a := by
  cases hkey : c.key? with
  | none =>
      rw [take_of_no_id (Chunk.key?_eq_none_iff.mp hkey)]
      exact .refl id a
  | some i =>
      obtain ⟨hid, hempty⟩ := Chunk.key?_eq_some_iff.mp hkey
      have hne : id ≠ i := fun heq => h (heq ▸ hkey)
      by_cases hretired : i ∈ a.retired
      · rw [take_of_retired hid hretired]
        exact .refl id a
      -- The entry of `i` is replaced or removed; the entry of `id` is found behind it as before.
      cases hlast : c.last with
      | false =>
          rw [take_more hid hempty hretired hlast]
          refine ⟨?_, .rfl⟩
          unfold text
          rw [List.find?_cons_of_neg (by simpa using hne.symm), find?_others hne]
      | true =>
          rw [take_last hid hempty hretired hlast]
          refine ⟨?_, by simp [hne]⟩
          unfold text
          rw [find?_others hne]

/-- What a chunk gives, and what is held of its id after it, depends on what was held of its id. It
gives the same and leaves the same. -/
theorem SameOf.take_key (h : SameOf id a b) (hkey : c.key? = some id) :
    (a.take c).1 = (b.take c).1 ∧ SameOf id (a.take c).2 (b.take c).2 := by
  obtain ⟨hid, hempty⟩ := Chunk.key?_eq_some_iff.mp hkey
  by_cases hretired : id ∈ a.retired
  · rw [take_of_retired hid hretired, take_of_retired hid (h.retired.mp hretired)]
    exact ⟨rfl, h⟩
  have hretired' : id ∉ b.retired := fun hmem => hretired (h.retired.mpr hmem)
  cases hlast : c.last with
  | false =>
      rw [take_more hid hempty hretired hlast, take_more hid hempty hretired' hlast, h.text]
      exact ⟨rfl, by simp [Assembler.text], h.retired⟩
  | true =>
      rw [take_last hid hempty hretired hlast, take_last hid hempty hretired' hlast, h.text]
      have htext (a : Assembler) (retired : List String) :
          Assembler.text ⟨a.others id, retired⟩ id = "" := text_of_not_mem (not_mem_others a id)
      exact ⟨rfl, (htext a _).trans (htext b _).symm, by simp⟩

/-- Assemblers that hold the same of the id of a chunk make the same of it. -/
theorem take_eq_of_sameOf (h : ∀ id, c.key? = some id → SameOf id a b) :
    (a.take c).1 = (b.take c).1 := by
  cases hkey : c.key? with
  | none =>
      have hid := Chunk.key?_eq_none_iff.mp hkey
      rw [take_of_no_id hid, take_of_no_id hid]
  | some id => exact ((h id hkey).take_key hkey).1

/-- Assemblers that hold the same of an id do so after any chunk. -/
theorem SameOf.take (h : SameOf id a b) (c : Chunk) : SameOf id (a.take c).2 (b.take c).2 := by
  by_cases hkey : c.key? = some id
  · exact (h.take_key hkey).2
  · exact (sameOf_take_of_ne hkey).trans (h.trans (sameOf_take_of_ne hkey).symm)

end Assembler

/-! ### One call -/

/-- The chunk that a call carries, if it carries one. -/
def Query.chunk? (q : Query) : Option Chunk :=
  match Params.decoder.value (.object q.params) with
  | .ok p => if p.multipart then some ⟨p.requestId, p.chunk.getD "", p.last⟩ else none
  | .error _ => none

/-- The request id that a call brings a chunk of. -/
def Query.id? (q : Query) : Option String :=
  q.chunk?.bind Chunk.key?

/-- What becomes of a call whose chunk gave this. Only a complete payload gets to a module. -/
def Post.fed (p : Post) (q : Query) : Feed × Assembler → Handled
  | (.pending, a) => ⟨none, [], p.registry, a, 0⟩
  | (.failed, a) =>
    ⟨some (.errorReply q.module q.action ⟨multipartFailure, ""⟩), [], p.registry, a, 0⟩
  | (.complete data, a) => dispatchCall p.registry a q.module q.action (some data)

theorem handle_of_chunk {c : Chunk} (h : q.chunk? = some c) (p : Post) :
    p.handle q = p.fed q (p.assembler.take c) := by
  unfold Query.chunk? at h
  unfold Post.handle handleCall
  cases hparams : Params.decoder.value (.object q.params) with
  | error e =>
      rw [hparams] at h
      cases h
  | ok params =>
      rw [hparams] at h
      dsimp only at h ⊢
      by_cases hmulti : params.multipart
      · rw [if_pos hmulti] at h ⊢
        cases h
        rfl
      · rw [if_neg hmulti] at h
        cases h

/-- A call without a chunk is refused, or dispatched with its payload, on every worker alike. The
refusal and the payload are read off the parameters, before any worker is looked at. -/
theorem handle_of_no_chunk (h : q.chunk? = none) :
    (∃ e, ∀ p : Post, p.handle q =
      ⟨some (.errorReply q.module q.action e), [], p.registry, p.assembler, 0⟩) ∨
    ∃ data, ∀ p : Post, p.handle q =
      dispatchCall p.registry p.assembler q.module q.action data := by
  unfold Query.chunk? at h
  unfold Post.handle handleCall
  cases hparams : Params.decoder.value (.object q.params) with
  | error e => exact .inl ⟨_, fun p => rfl⟩
  | ok params =>
      rw [hparams] at h
      dsimp only at h ⊢
      by_cases hmulti : params.multipart
      · rw [if_pos hmulti] at h
        cases h
      · exact .inr ⟨params.payload, fun p => if_neg hmulti⟩

theorem assembler_handle_of_chunk {c : Chunk} (h : q.chunk? = some c) (p : Post) :
    (p.handle q).assembler = (p.assembler.take c).2 := by
  rw [handle_of_chunk h]
  rcases p.assembler.take c with ⟨fed, a⟩
  cases fed <;> rfl

theorem assembler_handle_of_no_chunk (h : q.chunk? = none) (p : Post) :
    (p.handle q).assembler = p.assembler := by
  rcases handle_of_no_chunk h with ⟨e, he⟩ | ⟨data, hdata⟩
  · rw [he]
  · rw [hdata]
    rfl

/-- A call changes nothing that is held of another id than its own. A call without a chunk has none.
-/
theorem sameOf_handle_of_ne (h : q.id? ≠ some id) :
    Assembler.SameOf id (p.handle q).assembler p.assembler := by
  cases hchunk : q.chunk? with
  | none =>
      rw [assembler_handle_of_no_chunk hchunk]
      exact .refl id p.assembler
  | some c =>
      rw [assembler_handle_of_chunk hchunk]
      rw [Query.id?, hchunk] at h
      exact Assembler.sameOf_take_of_ne h

/-- Workers that hold the same of an id do so after any call. -/
theorem sameOf_handle (h : Assembler.SameOf id p.assembler o.assembler) (q : Query) :
    Assembler.SameOf id (p.handle q).assembler (o.handle q).assembler := by
  cases hchunk : q.chunk? with
  | none =>
      rw [assembler_handle_of_no_chunk hchunk, assembler_handle_of_no_chunk hchunk]
      exact h
  | some c =>
      rw [assembler_handle_of_chunk hchunk, assembler_handle_of_chunk hchunk]
      exact h.take c

/-- Two calls on a module get the same reply and leave the same module behind. Of other modules
nothing is said: the two workers need not have the same ones. -/
structure Handled.Alike (module : String) (h h' : Handled) : Prop where
  reply : h.reply = h'.reply
  found : h.registry.find? module = h'.registry.find? module

theorem alike_dispatchCall (h : r.find? module = r'.find? module) (a b : Assembler)
    (action : String) (data : Option Json) :
    Handled.Alike module (dispatchCall r a module action data)
      (dispatchCall r' b module action data) := by
  let e := (Envelope.request module action data).toJson
  have hname : echoed e "module" = module := echoed_module module action data
  have halike : Alike (echoed e "module") (dispatch r e) (dispatch r' e) :=
    alike_dispatch (by rwa [hname])
  rw [hname] at halike
  exact ⟨congrArg some halike.reply, halike.found⟩

/-- Workers that find the same module, and hold the same of the id of a call, do the same.
Everything that a call depends on is in these two hypotheses. -/
theorem alike_handle (hfound : p.registry.find? q.module = o.registry.find? q.module)
    (hid : ∀ id, q.id? = some id → Assembler.SameOf id p.assembler o.assembler) :
    Handled.Alike q.module (p.handle q) (o.handle q) := by
  cases hchunk : q.chunk? with
  | none =>
      rcases handle_of_no_chunk hchunk with ⟨e, he⟩ | ⟨data, hdata⟩
      · rw [he, he]
        exact ⟨rfl, hfound⟩
      · rw [hdata, hdata]
        exact alike_dispatchCall hfound _ _ q.action data
  | some c =>
      have hfed : (p.assembler.take c).1 = (o.assembler.take c).1 := by
        refine Assembler.take_eq_of_sameOf fun id hkey => hid id ?_
        rw [Query.id?, hchunk]
        exact hkey
      -- The two assemblers differ in what they hold of other ids, and agree on what comes of the
      -- chunk.
      rw [handle_of_chunk hchunk, handle_of_chunk hchunk]
      rcases hp : p.assembler.take c with ⟨fed, a⟩
      rcases ho : o.assembler.take c with ⟨fed', b⟩
      rw [hp, ho] at hfed
      obtain rfl : fed = fed' := hfed
      cases fed with
      | pending => exact ⟨rfl, hfound⟩
      | failed => exact ⟨rfl, hfound⟩
      | complete data => exact alike_dispatchCall hfound a b q.action (some data)

/-! ### All calls -/

/-- No call on the module brings a chunk of an id that an earlier call on another module has brought
a chunk of. A later call on another module may take up such an id, since the reply has been made by
then. -/
def OwnIds (module : String) (calls : List Query) : Prop :=
  calls.Pairwise fun before q => before.module ≠ module → q.module = module →
    ∀ id, q.id? = some id → before.id? ≠ some id

theorem ownIds_concat : OwnIds module (history ++ [q]) ↔ OwnIds module history ∧
    (q.module = module → ∀ before ∈ history, before.module ≠ module →
      ∀ id, q.id? = some id → before.id? ≠ some id) := by
  unfold OwnIds
  rw [List.pairwise_append]
  constructor
  · rintro ⟨hhistory, -, hlast⟩
    exact ⟨hhistory, fun hq before hbefore hne =>
      hlast before hbefore q (List.mem_singleton_self q) hne hq⟩
  · rintro ⟨hhistory, hlast⟩
    refine ⟨hhistory, List.pairwise_singleton _ _, ?_⟩
    intro before hbefore q' hq' hne hq
    obtain rfl := List.mem_singleton.mp hq'
    exact hlast hq before hbefore hne

/-- The shared worker has the module that the module's own worker has, and holds the same of every
id that no call on another module has brought a chunk of. -/
structure Mirrors (module : String) (history : List Query) (shared own : Post) : Prop where
  found : shared.registry.find? module = own.registry.find? module
  ids : ∀ id, (∀ before ∈ history, before.module ≠ module → before.id? ≠ some id) →
    Assembler.SameOf id shared.assembler own.assembler

/-- A call on the module keeps the two workers alike, and gets the same reply from both. -/
theorem Mirrors.own (h : Mirrors module history p o) (hq : q.module = module)
    (hids : ∀ before ∈ history, before.module ≠ module →
      ∀ id, q.id? = some id → before.id? ≠ some id) :
    (p.handle q).reply = (o.handle q).reply ∧
      Mirrors module (history ++ [q]) (p.after q) (o.after q) := by
  subst hq
  have halike := alike_handle h.found fun id hid =>
    h.ids id fun before hbefore hne => hids before hbefore hne id hid
  refine ⟨halike.reply, halike.found, fun id hunused => sameOf_handle (h.ids id ?_) q⟩
  intro before hbefore hne
  exact hunused before (List.mem_append_left _ hbefore) hne

/-- A call on another module changes nothing for the module on the shared worker. -/
theorem Mirrors.other (h : Mirrors module history p o) (hq : q.module ≠ module) :
    Mirrors module (history ++ [q]) (p.after q) o := by
  refine ⟨(find?_handleCall hq.symm).trans h.found, fun id hunused => ?_⟩
  have hne : q.id? ≠ some id := hunused q (by simp) hq
  have hsame := h.ids id fun before hbefore hne =>
    hunused before (List.mem_append_left _ hbefore) hne
  exact (sameOf_handle_of_ne hne).trans hsame

theorem find?_only (r : Registry) (name : String) : (r.only name).find? name = r.find? name := by
  unfold Registry.only Registry.find?
  rw [List.find?_filter]
  simp

theorem mirrors_start (r : Registry) (module : String) :
    Mirrors module [] (start true r (workerOf true module))
      (start false r (workerOf false module)) :=
  ⟨(find?_only r module).symm, fun id _ => .refl id .empty⟩

/-- The two workers mirror each other after all calls. By induction on the calls, from the last one.
-/
theorem mirrors_postsAfter (r : Registry) (h : OwnIds module history) :
    Mirrors module history (postsAfter true r history (workerOf true module))
      (postsAfter false r history (workerOf false module)) := by
  -- From the last call, which is the only one that can break what held before it.
  induction history using List.reverseRecOn with
  | nil => exact mirrors_start r module
  | append_singleton history q ih =>
      obtain ⟨hhistory, hids⟩ := ownIds_concat.mp h
      have hmirrors := ih hhistory
      have hshared : postsAfter true r (history ++ [q]) (workerOf true module) =
          (postsAfter true r history (workerOf true module)).after q := by
        rw [postsAfter_concat]
        exact pass_self true _ q
      rw [hshared, postsAfter_concat]
      by_cases hq : q.module = module
      · subst hq
        rw [pass_self]
        exact (hmirrors.own rfl (hids rfl)).2
      · have hown : workerOf false module ≠ workerOf false q.module := fun heq => hq heq.symm
        rw [pass_of_ne hown]
        exact hmirrors.other hq

/-- **The layout of the workers shows in shared ids only.** After any calls, the one worker that has
all modules gives the next call the reply that the module's own worker gives, unless some call on
the module brought a chunk of an id that a call on another module had brought a chunk of before. -/
theorem layouts_agree (r : Registry) (history : List Query) (q : Query)
    (h : OwnIds q.module (history ++ [q])) :
    replyAfter true r history q = replyAfter false r history q := by
  obtain ⟨hhistory, hids⟩ := ownIds_concat.mp h
  exact ((mirrors_postsAfter r hhistory).own rfl (hids rfl)).1

/-- A whole payload in one chunk, for an action of the resolver that takes none. -/
def settingsChunk (id : String) : Query :=
  ⟨"dns", "get_settings", chunkParams id "\x7b\x7d" true⟩

/-- A whole message in one chunk, for the echo module. -/
def echoChunk (id : String) : Query :=
  ⟨"echo", "echo", chunkParams id "\x7b\"request_msg\":1\x7d" true⟩

/-- A call on the echo module after one on the resolver, each under an id of its own. -/
theorem layouts_agree_own_ids :
    OwnIds "echo" [settingsChunk "r1", echoChunk "r2"] ∧
    replyAfter true [Modules.Dns.module, Modules.Echo.module] [settingsChunk "r1"]
        (echoChunk "r2") =
      replyAfter false [Modules.Dns.module, Modules.Echo.module] [settingsChunk "r1"]
        (echoChunk "r2") := by
  have hown : OwnIds "echo" [settingsChunk "r1", echoChunk "r2"] := by
    have hsettings : (settingsChunk "r1").id? = some "r1" := rfl
    have hecho : (echoChunk "r2").id? = some "r2" := rfl
    simp [OwnIds, hsettings, hecho]
  exact ⟨hown, layouts_agree _ [settingsChunk "r1"] (echoChunk "r2") hown⟩

/-- The same two calls under one id. The resolver refuses the payload, but the id is used up; so the
shared worker fails the call on the echo module, and the module's own worker answers it. -/
theorem layouts_differ :
    (∀ q ∈ [settingsChunk "r1", echoChunk "r1"],
      q.module ∈ Registry.names [Modules.Dns.module, Modules.Echo.module]) ∧
    replyAfter true [Modules.Dns.module, Modules.Echo.module] [settingsChunk "r1"]
        (echoChunk "r1") ≠
      replyAfter false [Modules.Dns.module, Modules.Echo.module] [settingsChunk "r1"]
        (echoChunk "r1") := by
  have hshared : (replyAfter true [Modules.Dns.module, Modules.Echo.module]
      [settingsChunk "r1"] (echoChunk "r1")).map (·.isError) = some true := by decide +kernel
  have hown : (replyAfter false [Modules.Dns.module, Modules.Echo.module]
      [settingsChunk "r1"] (echoChunk "r1")).map (·.isError) = some false := by decide +kernel
  refine ⟨by decide, fun heq => ?_⟩
  rw [heq, hown] at hshared
  cases hshared

end Switchyard.Call
