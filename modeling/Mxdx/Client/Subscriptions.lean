import Mxdx.Foundations.Automaton
import Mxdx.Worker.Telemetry
import Mathlib.Algebra.Group.Nat.Defs
import Mathlib.Data.List.AList
import Mathlib.Data.List.DropRight

/-! The subscriptions of the clients of the daemon. An event goes to every subscription
with a pattern that takes its type. Beside the registry stand the subscriptions that were
made and not given up, as the calls tell them. -/
namespace Mxdx.Client.Daemon

open Automaton

/-- What a caller narrows its subscription to. -/
structure EventFilter where
  uuid : Option String
  workerId : Option String
  workerRoom : Option String
deriving DecidableEq

/-- The sending half of a client's channel. -/
structure Sink where
  id : Nat
deriving DecidableEq

/-- The events that one caller wants, and where they go. -/
structure Subscription where
  eventPatterns : List String
  filter : Option EventFilter
  sink : Sink
deriving DecidableEq

/-- The subscriptions by their ids, and the number of the next. -/
structure SubscriptionRegistry where
  subscriptions : AList fun _ : String => Subscription
  nextId : UInt64

/-- An event sent to the sink of the subscription with the given id. -/
structure Delivery where
  id : String
  sink : Sink
  eventJson : String
deriving DecidableEq

/-- `format!("sub-{:04}", number)`. -/
def subscriptionId (number : Nat) : String := "sub-" ++ String.ofList (Worker.padded 4 number)

/-- A pattern with a star at its end stands for every type that begins so. -/
def matchesPatterns (eventType : String) (patterns : List String) : Bool :=
  patterns.any fun pattern =>
    if ".*".toList.isSuffixOf pattern.toList then
      (pattern.toList.rdrop 2).isPrefixOf eventType.toList
    else pattern = eventType

namespace SubscriptionRegistry

/-- No subscriptions yet. -/
def new : SubscriptionRegistry := ⟨∅, 0⟩

/-- The sum is a checked one: without a next id the call panics and returns none. -/
def subscribe (registry : SubscriptionRegistry) (eventPatterns : List String)
    (filter : Option EventFilter) (sink : Sink) : Option String × SubscriptionRegistry :=
  if registry.nextId.toNat + 1 < 2 ^ 64 then
    let nextId := registry.nextId + 1
    let id := subscriptionId nextId.toNat
    (some id, ⟨registry.subscriptions.insert id ⟨eventPatterns, filter, sink⟩, nextId⟩)
  else (none, registry)

/-- The answer tells whether the subscription was there. -/
def unsubscribe (registry : SubscriptionRegistry) (id : String) : Bool × SubscriptionRegistry :=
  ((registry.subscriptions.lookup id).isSome,
    { registry with subscriptions := registry.subscriptions.erase id })

/-- What is sent, in the order in which the map is gone through. -/
def dispatch (registry : SubscriptionRegistry) (eventType eventJson : String) : List Delivery :=
  registry.subscriptions.entries.filterMap fun entry =>
    if matchesPatterns eventType entry.2.eventPatterns then
      some ⟨entry.1, entry.2.sink, eventJson⟩
    else none

end SubscriptionRegistry

/-- The calls that change the registry. -/
inductive RegistryCall where
  | subscribe (eventPatterns : List String) (filter : Option EventFilter) (sink : Sink)
  | unsubscribe (id : String)

/-- A subscription under its id. -/
abbrev Entry := (_ : String) × Subscription

/-- The registry with the subscriptions that are live, the latest first. -/
structure Subscribed where
  registry : SubscriptionRegistry
  live : List Entry

namespace Subscribed

/-- Nobody has subscribed. -/
def new : Subscribed := ⟨.new, []⟩

/-- The ids that were handed out are kept beside the registry. -/
def step (subscribed : Subscribed) : RegistryCall → Subscribed
  | .subscribe eventPatterns filter sink =>
      let (id, registry) := subscribed.registry.subscribe eventPatterns filter sink
      ⟨registry, (id.map fun id => ⟨id, eventPatterns, filter, sink⟩).toList ++ subscribed.live⟩
  | .unsubscribe id =>
      ⟨(subscribed.registry.unsubscribe id).2, subscribed.live.filter (·.1 ≠ id)⟩

/-- The registry holds the live subscriptions, each under an id of its own. -/
structure Kept (subscribed : Subscribed) : Prop where
  entries : subscribed.registry.subscriptions.entries = subscribed.live
  numbered : ∀ entry ∈ subscribed.live, ∃ number, number ≤ subscribed.registry.nextId.toNat ∧
    entry.1 = subscriptionId number

end Subscribed

/-- The pattern is the type, or it is `start.*` and the type begins with `start.`. -/
def Covers (pattern eventType : String) : Prop :=
  pattern = eventType ∨
    ∃ start, pattern = start ++ ".*" ∧ (start ++ ".").toList <+: eventType.toList

/-- Whether a filter accepts an event is for the filter to say. -/
def Accepts := EventFilter → (eventType eventJson : String) → Prop

namespace Subscription

variable (accepts : Accepts) (subscription : Subscription) (eventType eventJson : String)

/-- The event is one for the subscription. -/
def Wants : Prop :=
  (∃ pattern ∈ subscription.eventPatterns, Covers pattern eventType) ∧
    ∀ filter, subscription.filter = some filter → accepts filter eventType eventJson

/-- Where the type begins like a pattern `start.*`, with or without the dot, some pattern
covers it; and the filter accepts what a pattern covers. -/
structure Told : Prop where
  boundary : ∀ start, start ++ ".*" ∈ subscription.eventPatterns →
    start.toList <+: eventType.toList →
      ∃ pattern ∈ subscription.eventPatterns, Covers pattern eventType
  filtered : (∃ pattern ∈ subscription.eventPatterns, Covers pattern eventType) →
    ∀ filter, subscription.filter = some filter → accepts filter eventType eventJson

end Subscription

/-- The event goes to the live subscriptions that want it, to each of them once, and to
nobody else. -/
def Dispatched (accepts : Accepts) (subscribed : Subscribed) (eventType eventJson : String) :
    Prop :=
  ∃ wanted : List Entry, wanted.Nodup ∧
    (∀ entry, entry ∈ wanted ↔
      entry ∈ subscribed.live ∧ entry.2.Wants accepts eventType eventJson) ∧
    (subscribed.registry.dispatch eventType eventJson).Perm
      (wanted.map fun entry => ⟨entry.1, entry.2.sink, eventJson⟩)

section Matching

variable {eventType : String} {patterns : List String}

/-- A pattern that ends in `.*` is its beginning with that behind it. -/
theorem wildcard_iff {pattern : String} :
    ".*".toList.isSuffixOf pattern.toList = true ↔
      ∃ start, pattern = start ++ ".*" ∧ start.toList = pattern.toList.rdrop 2 := by
  rw [List.isSuffixOf_iff_suffix]
  constructor
  · rintro ⟨start, hStart⟩
    refine ⟨String.ofList start, ?_, ?_⟩
    · rw [← String.toList_inj, String.toList_append, String.toList_ofList, hStart]
    · rw [String.toList_ofList, ← hStart, List.rdrop]
      simp
  · rintro ⟨start, rfl, -⟩
    rw [String.toList_append]
    exact List.suffix_append _ _

theorem rdrop_wildcard (start : String) : (start ++ ".*").toList.rdrop 2 = start.toList := by
  rw [String.toList_append, List.rdrop]
  simp

/-- The dot before the star is not looked at. -/
theorem matchesPatterns_iff :
    matchesPatterns eventType patterns = true ↔
      (∃ pattern ∈ patterns, Covers pattern eventType) ∨
        ∃ start, start ++ ".*" ∈ patterns ∧ start.toList <+: eventType.toList := by
  rw [matchesPatterns, List.any_eq_true]
  constructor
  · rintro ⟨pattern, hMem, hMatches⟩
    by_cases hWildcard : ".*".toList.isSuffixOf pattern.toList = true
    · rw [if_pos hWildcard, List.isPrefixOf_iff_prefix] at hMatches
      obtain ⟨start, rfl, hStart⟩ := wildcard_iff.mp hWildcard
      rw [← hStart] at hMatches
      exact .inr ⟨start, hMem, hMatches⟩
    · rw [if_neg hWildcard, decide_eq_true_eq] at hMatches
      exact .inl ⟨pattern, hMem, .inl hMatches⟩
  · have hLoose : ∀ start : String, start ++ ".*" ∈ patterns → start.toList <+: eventType.toList →
        ∃ pattern ∈ patterns, (if ".*".toList.isSuffixOf pattern.toList = true then
          (pattern.toList.rdrop 2).isPrefixOf eventType.toList
          else decide (pattern = eventType)) = true := by
      intro start hMem hBegins
      refine ⟨start ++ ".*", hMem, ?_⟩
      rw [if_pos (wildcard_iff.mpr ⟨start, rfl, (rdrop_wildcard start).symm⟩), rdrop_wildcard,
        List.isPrefixOf_iff_prefix]
      exact hBegins
    rintro (⟨pattern, hMem, hSame | ⟨start, rfl, hBegins⟩⟩ | ⟨start, hMem, hBegins⟩)
    · by_cases hWildcard : ".*".toList.isSuffixOf pattern.toList = true
      · obtain ⟨start, rfl, -⟩ := wildcard_iff.mp hWildcard
        refine hLoose start hMem ?_
        rw [← hSame, String.toList_append]
        exact List.prefix_append _ _
      · refine ⟨pattern, hMem, ?_⟩
        rw [if_neg hWildcard, decide_eq_true_eq]
        exact hSame
    · refine hLoose start hMem (List.IsPrefix.trans ?_ hBegins)
      rw [String.toList_append]
      exact List.prefix_append _ _
    · exact hLoose start hMem hBegins

/-- What the patterns of a subscription let through it wants, exactly where it is told. -/
theorem told_iff {accepts : Accepts} {subscription : Subscription} {eventJson : String} :
    subscription.Told accepts eventType eventJson ↔
      (matchesPatterns eventType subscription.eventPatterns = true →
        subscription.Wants accepts eventType eventJson) := by
  rw [matchesPatterns_iff]
  constructor
  · rintro h (hCovered | ⟨start, hMem, hBegins⟩)
    · exact ⟨hCovered, h.filtered hCovered⟩
    · have hCovered := h.boundary start hMem hBegins
      exact ⟨hCovered, h.filtered hCovered⟩
  · intro h
    refine ⟨fun start hMem hBegins => ?_, fun hCovered => ?_⟩
    · exact (h (.inr ⟨start, hMem, hBegins⟩)).1
    · exact (h (.inl hCovered)).2

end Matching

section Registry

theorem subscriptionId_injective : Function.Injective subscriptionId := by
  intro first second h
  rw [subscriptionId, subscriptionId, ← String.toList_inj, String.toList_append,
    String.toList_append, List.append_cancel_left_eq, String.toList_ofList,
    String.toList_ofList] at h
  have hParsed := congrArg Worker.parseDigits h
  rw [Worker.parseDigits_padded, Worker.parseDigits_padded] at hParsed
  exact Option.some.inj hParsed

/-- Where every key is there once, erasing one leaves all the others. -/
theorem kerase_eq_filter {id : String} {entries : List Entry} (h : entries.NodupKeys) :
    entries.kerase id = entries.filter (·.1 ≠ id) := by
  induction entries with
  | nil => rfl
  | cons entry rest ih =>
      obtain ⟨hFirst, hRest⟩ := List.nodupKeys_cons.mp h
      by_cases hId : id = entry.1
      · have hOthers : rest.filter (·.1 ≠ id) = rest := by
          rw [List.filter_eq_self]
          intro other hOther
          rw [decide_eq_true_eq]
          rintro rfl
          exact hFirst (hId ▸ List.mem_map_of_mem hOther)
        rw [List.kerase_cons_eq hId, List.filter_cons, if_neg (by simp [hId]), hOthers]
      · rw [List.kerase_cons_ne hId, List.filter_cons, if_pos (by simpa using Ne.symm hId), ih hRest]

namespace Subscribed

variable {subscribed : Subscribed}

theorem kept_new : Kept .new := ⟨rfl, nofun⟩

theorem Kept.nodupKeys (h : Kept subscribed) : subscribed.live.NodupKeys :=
  h.entries ▸ subscribed.registry.subscriptions.nodupKeys

theorem Kept.subscribe (h : Kept subscribed) (eventPatterns : List String)
    (filter : Option EventFilter) (sink : Sink) :
    Kept (subscribed.step (.subscribe eventPatterns filter sink)) := by
  simp only [step, SubscriptionRegistry.subscribe]
  by_cases hNext : subscribed.registry.nextId.toNat + 1 < 2 ^ 64
  · rw [if_pos hNext]
    have hNumber : (subscribed.registry.nextId + 1).toNat = subscribed.registry.nextId.toNat + 1 := by
      rw [UInt64.toNat_add, UInt64.toNat_one, Nat.mod_eq_of_lt hNext]
    have hFresh : subscriptionId (subscribed.registry.nextId + 1).toNat ∉
        subscribed.registry.subscriptions := by
      intro hMem
      rw [AList.mem_keys, AList.keys, h.entries, List.keys, List.mem_map] at hMem
      obtain ⟨entry, hEntry, hId⟩ := hMem
      obtain ⟨number, hBelow, hNumbered⟩ := h.numbered entry hEntry
      rw [hNumbered] at hId
      have hSame := subscriptionId_injective hId
      omega
    refine ⟨?_, ?_⟩
    · rw [AList.entries_insert_of_notMem hFresh, h.entries]
      rfl
    · intro entry hEntry
      rcases List.mem_cons.mp hEntry with rfl | hOld
      · exact ⟨_, Nat.le_refl _, rfl⟩
      · obtain ⟨number, hBelow, hNumbered⟩ := h.numbered entry hOld
        exact ⟨number, by dsimp only; omega, hNumbered⟩
  · rw [if_neg hNext]
    exact h

theorem Kept.unsubscribe (h : Kept subscribed) (id : String) :
    Kept (subscribed.step (.unsubscribe id)) := by
  refine ⟨?_, ?_⟩
  · show List.kerase id subscribed.registry.subscriptions.entries = _
    rw [h.entries, kerase_eq_filter h.nodupKeys]
    rfl
  · intro entry hEntry
    exact h.numbered entry (List.mem_of_mem_filter hEntry)

theorem kept_step (h : Kept subscribed) (call : RegistryCall) : Kept (subscribed.step call) := by
  cases call with
  | subscribe eventPatterns filter sink => exact h.subscribe eventPatterns filter sink
  | unsubscribe id => exact h.unsubscribe id

theorem kept_run (calls : List RegistryCall) : Kept (run step .new calls) := by
  have hStep : ∀ subscribed call, Kept subscribed → Kept (step subscribed call) :=
    fun _ call h => kept_step h call
  exact (always_of_step hStep kept_new calls).last

end Subscribed

end Registry

section Dispatch

variable {accepts : Accepts} {subscribed : Subscribed} {eventType eventJson : String}

theorem dispatch_eq (h : subscribed.Kept) :
    subscribed.registry.dispatch eventType eventJson =
      (subscribed.live.filter fun entry => matchesPatterns eventType entry.2.eventPatterns).map
        fun entry => ⟨entry.1, entry.2.sink, eventJson⟩ := by
  rw [SubscriptionRegistry.dispatch, h.entries, ← List.filterMap_eq_map, ← List.filterMap_eq_filter,
    List.filterMap_filterMap]
  congr 1
  funext entry
  by_cases hMatches : matchesPatterns eventType entry.2.eventPatterns = true
  · simp [hMatches]
  · simp [hMatches, Option.guard]

/-- As the patterns let through every event that is wanted, all is as it should be where
they let through no other. -/
theorem dispatched_iff (h : subscribed.Kept) :
    Dispatched accepts subscribed eventType eventJson ↔
      ∀ entry ∈ subscribed.live, entry.2.Told accepts eventType eventJson := by
  have hMatched : ∀ entry, entry ∈ (subscribed.live.filter fun entry =>
      matchesPatterns eventType entry.2.eventPatterns) ↔
        entry ∈ subscribed.live ∧ matchesPatterns eventType entry.2.eventPatterns = true :=
    fun entry => List.mem_filter
  rw [Dispatched, dispatch_eq h]
  constructor
  · rintro ⟨wanted, -, hWanted, hPerm⟩ entry hLive
    rw [told_iff]
    intro hMatches
    have hSent : (⟨entry.1, entry.2.sink, eventJson⟩ : Delivery) ∈
        wanted.map fun entry => ⟨entry.1, entry.2.sink, eventJson⟩ := by
      rw [← hPerm.mem_iff]
      exact List.mem_map_of_mem ((hMatched entry).mpr ⟨hLive, hMatches⟩)
    obtain ⟨other, hOther, hDelivery⟩ := List.mem_map.mp hSent
    have hId : other.1 = entry.1 := congrArg Delivery.id hDelivery
    obtain ⟨hOtherLive, hOtherWants⟩ := (hWanted other).mp hOther
    rw [← h.nodupKeys.eq_of_fst_eq hOtherLive hLive hId]
    exact hOtherWants
  · intro hTold
    refine ⟨_, h.nodupKeys.nodup.filter _, fun entry => ?_, List.Perm.refl _⟩
    rw [hMatched]
    refine and_congr_right fun hLive => ?_
    constructor
    · exact told_iff.mp (hTold entry hLive)
    · intro hWants
      exact matchesPatterns_iff.mpr (.inl hWants.1)

/-- After any calls an event is dispatched as it should be exactly when every live
subscription is told: a pattern `start.*` is met at its dot only, or another pattern
takes the type; and the filter would have accepted what the patterns take. -/
theorem dispatch_exact_iff (accepts : Accepts) (calls : List RegistryCall)
    (eventType eventJson : String) :
    Dispatched accepts (run Subscribed.step .new calls) eventType eventJson ↔
      ∀ entry ∈ (run Subscribed.step .new calls).live,
        entry.2.Told accepts eventType eventJson :=
  dispatched_iff (Subscribed.kept_run calls)

/-- A subscription to `session.*` gets the event `sessions.purged`. -/
theorem dispatch_passes_boundary :
    ¬ ∀ (accepts : Accepts) (calls : List RegistryCall) (eventType eventJson : String),
      Dispatched accepts (run Subscribed.step .new calls) eventType eventJson := by
  intro h
  obtain ⟨wanted, -, hWanted, hPerm⟩ := h (fun _ _ _ => True)
    [.subscribe ["session.*"] none ⟨0⟩] "sessions.purged" "\x7b\x7d"
  have hSent : (⟨"sub-0001", ⟨0⟩, "\x7b\x7d"⟩ : Delivery) ∈
      wanted.map fun entry => ⟨entry.1, entry.2.sink, "\x7b\x7d"⟩ := by
    rw [← hPerm.mem_iff]
    decide
  obtain ⟨entry, hEntry, -⟩ := List.mem_map.mp hSent
  obtain ⟨hLive, ⟨pattern, hPattern, hCovers⟩, -⟩ := (hWanted entry).mp hEntry
  have hOnly : entry = ⟨"sub-0001", ["session.*"], none, ⟨0⟩⟩ := List.mem_singleton.mp hLive
  subst hOnly
  obtain rfl := List.mem_singleton.mp hPattern
  rcases hCovers with hSame | ⟨start, hStart, hBegins⟩
  · exact absurd hSame (by decide)
  · have hSession : start.toList = "session".toList := by
      have hRest := congrArg (fun text => text.toList.rdrop 2) hStart
      rw [rdrop_wildcard] at hRest
      exact hRest.symm
    rw [String.toList_append, hSession] at hBegins
    exact absurd hBegins (by decide)

end Dispatch

end Mxdx.Client.Daemon
