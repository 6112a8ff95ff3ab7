import ClimateBus.Proofs.LinkHistory
import ClimateBus.Proofs.UnitFrame
import Mathlib

/-!
How old the error block of a unit can be when it is handed out, over any bus that leaves the buffer
of a failed read alone.

An error block is read again only if the last read of it is too long ago, and the stamp of a read is
the time its call began, before the wait for the bus. What a call makes of a record is told by
`ErrorFate`: a discovery that gets its system block forgets the stamp, a successful read takes a new
one together with the block, and nothing else touches either. So the block of a stamped record was
fetched by one call of the history, which began at the time of the stamp (`History.traced`).
-/
namespace ClimateBus

namespace Slot

variable {β : Type} [Bus β]

/-- What a read of the error block may do: nothing while the last one is trusted, else a read that
succeeds and is stamped or one that fails and leaves the record as it was. -/
theorem readError_cases (hbus : Bus.KeepsBuffer β) (secs : UInt32) (l : BusLink β) (u : Slot) :
    u.errorFresh l.now secs = true ∧ readError secs l u = ⟨.ok (), u, l⟩ ∨
      u.errorFresh l.now secs = false ∧ ∃ l' : BusLink β,
        (∃ m, l.read .error u.index u.error.image = ⟨.ok (), m, l'⟩ ∧ readError secs l u =
            ⟨.ok (), { u with error := ⟨m⟩, lastErrorRead := some l.now }, l'⟩) ∨
          ∃ e, l.read .error u.index u.error.image = ⟨.error e, u.error.image, l'⟩ ∧
            readError secs l u = ⟨.error e, u, l'⟩ := by
  cases hfresh : u.errorFresh l.now secs with
  | true => exact .inl ⟨rfl, by rw [readError, if_pos hfresh]⟩
  | false =>
    refine .inr ⟨rfl, ?_⟩
    have hkept : ∀ e, (l.read .error u.index u.error.image).result = .error e →
        (l.read .error u.index u.error.image).buffer = u.error.image :=
      fun e he => hbus _ _ _ _ _ e he
    simp only [readError, hfresh, Bool.false_eq_true, if_false]
    generalize l.read .error u.index u.error.image = r at hkept ⊢
    obtain ⟨result, m, l'⟩ := r
    refine ⟨l', ?_⟩
    cases result with
    | ok _ => exact .inl ⟨m, rfl, rfl⟩
    | error e =>
      obtain rfl : m = u.error.image := hkept e rfl
      exact .inr ⟨e, rfl, rfl⟩

theorem discover_unread (l : BusLink β) (u : Slot) (system : SystemImage) :
    (u.discover system l).1.lastErrorRead = none := by
  unfold discover
  dsimp only
  split_ifs
  · split
    · rfl
    · split <;> rfl
  · rfl

end Slot

namespace Gateway

variable {β : Type} [Bus β]

theorem scan_unread (system : SystemImage) (us : List Slot) (l : BusLink β) :
    ∀ u ∈ (scan system l us).1, u.lastErrorRead = none := by
  induction us generalizing l with
  | nil => simp [scan]
  | cons v rest ih =>
    intro u hu
    rcases List.mem_cons.mp hu with rfl | hu
    · exact v.discover_unread l system
    · exact ih _ u hu

/-- A call that is a discovery and gets its system block: it forgets what was known. -/
def Discovers (c : Gateway β × Call) : Prop := c.2 = .discover ∧ ∃ n, c.1.discover.1 = .ok n

/-- In this state a call to `readError` reads the block from the unit, and that is all it does on
the bus. -/
def Fetches (g : Gateway β) (i : UInt8) (block : ErrorImage) : Prop :=
  ∃ buffer, g.link.read .error i buffer = ⟨.ok (), block.image, (g.readError i).2.link⟩

/-- The read is kept as one that succeeded. -/
theorem Fetches.issues {g : Gateway β} {i : UInt8} {block : ErrorImage} (h : g.Fetches i block) :
    g.link.Issues (g.link.readIssue .error i true (g.readError i).2.link.now)
      (g.readError i).2.link := by
  obtain ⟨buffer, hread⟩ := h
  have hissues : g.link.Issues _ _ := .read .error i buffer
  rwa [hread] at hissues

variable {g : Gateway β} {i : UInt8} {u : Slot}

/-- The ways a call to `readError` can end for a unit that is there. -/
theorem readError_cases (hbus : Bus.KeepsBuffer β) (hg : g.Indexed) (hu : g.present? i = .ok u) :
    u.errorFresh g.link.now g.settings.cacheErrorS = true ∧ g.readError i = (.ok (), g) ∨
      u.errorFresh g.link.now g.settings.cacheErrorS = false ∧
        ((∃ m, g.Fetches i ⟨m⟩ ∧ (g.readError i).1 = .ok () ∧ (g.readError i).2.slots =
            g.slots.set i.toNat { u with error := ⟨m⟩, lastErrorRead := some g.link.now }) ∨
          ∃ e, g.link.Issues (g.link.readIssue .error i false (g.readError i).2.link.now)
              (g.readError i).2.link ∧
            (g.readError i).1 = .error (.bus e) ∧ (g.readError i).2.slots = g.slots) := by
  obtain ⟨-, hindex⟩ := hg.of_present hu
  have hsame := set_of_present hu
  rcases u.readError_cases hbus g.settings.cacheErrorS g.link with
    ⟨hfresh, hstep⟩ | ⟨hfresh, l', ⟨m, hread, hstep⟩ | ⟨e, hread, hstep⟩⟩
  · refine .inl ⟨hfresh, ?_⟩
    rw [readError, onPresent_present hu, hstep, hsame]
    rfl
  · refine .inr ⟨hfresh, .inl ⟨m, ?_⟩⟩
    rw [hindex] at hread
    rw [Fetches, readError, onPresent_present hu, hstep]
    exact ⟨⟨u.error.image, hread⟩, rfl, rfl⟩
  · refine .inr ⟨hfresh, .inr ⟨e, ?_⟩⟩
    have hissues : g.link.Issues _ _ := .read .error i u.error.image
    rw [hindex] at hread
    rw [hread] at hissues
    rw [readError, onPresent_present hu, hstep]
    exact ⟨hissues, rfl, hsame⟩

/-- What a call makes of the error block of a record and of its stamp. -/
inductive ErrorFate (i : UInt8) (c : Gateway β × Call) (u u' : Slot) : Prop
  | forgotten (h : Discovers c) (hstamp : u'.lastErrorRead = none)
  | kept (h : ¬ Discovers c) (hblock : u'.error = u.error)
      (hstamp : u'.lastErrorRead = u.lastErrorRead) (hpresent : u'.present = u.present)
  | fetched (h : c.2 = .readError i) (hfetches : c.1.Fetches i u'.error)
      (hstamp : u'.lastErrorRead = some c.1.link.now)

theorem discover_fate (hu : g.slots[i.toNat]? = some u) :
    ∃ u', g.discover.2.slots[i.toNat]? = some u' ∧ ErrorFate i (g, .discover) u u' := by
  have hfails (e : GatewayError) (h : g.discover.1 = .error e) : ¬ Discovers (g, .discover) := by
    rintro ⟨-, n, hn⟩
    rw [h] at hn
    cases hn
  have hfound (n : Nat) (h : g.discover.1 = .ok n) : Discovers (g, .discover) := ⟨rfl, n, h⟩
  unfold discover at hfails hfound ⊢
  generalize g.link.read .system 0 g.system.image = r at hfails hfound ⊢
  obtain ⟨result, buffer, link⟩ := r
  cases result with
  | error e => exact ⟨u, hu, .kept (hfails _ rfl) rfl rfl rfl⟩
  | ok _ =>
    have hlength : i.toNat < (scan ⟨buffer⟩ link g.slots).1.length := by
      rw [← List.length_map Slot.index, map_index_scan, List.length_map]
      exact (List.getElem?_eq_some_iff.mp hu).1
    refine ⟨_, List.getElem?_eq_getElem hlength, .forgotten (hfound _ rfl) ?_⟩
    exact scan_unread _ _ _ _ (List.getElem_mem hlength)

theorem poll_fate (hu : g.slots[i.toNat]? = some u) :
    ∃ u', g.poll.2.slots[i.toNat]? = some u' ∧ ErrorFate i (g, .poll) u u' := by
  have hmap : g.poll.2.slots.map (fun u => (u.error, u.lastErrorRead, u.present)) =
      g.slots.map fun u => (u.error, u.lastErrorRead, u.present) :=
    map_refresh (fun _ _ => rfl) _ _ _ _
  have hentry := congrArg (·[i.toNat]?) hmap
  simp only [List.getElem?_map, hu, Option.map_some, Option.map_eq_some_iff, Prod.mk.injEq]
    at hentry
  obtain ⟨u', hu', hblock, hstamp, hpresent⟩ := hentry
  exact ⟨u', hu', .kept (fun h => by cases h.1) hblock hstamp hpresent⟩

theorem readError_fate (hbus : Bus.KeepsBuffer β) (hg : g.Indexed)
    (hu : g.slots[i.toNat]? = some u) :
    ∃ u', (g.readError i).2.slots[i.toNat]? = some u' ∧ ErrorFate i (g, .readError i) u u' := by
  have hquiet : ¬ Discovers (g, .readError i) := fun h => by cases h.1
  cases hpresent : g.present? i with
  | error e =>
    rw [readError, onPresent_absent hpresent]
    exact ⟨u, hu, .kept hquiet rfl rfl rfl⟩
  | ok v =>
    obtain rfl := eq_of_present hpresent hu
    rcases readError_cases hbus hg hpresent with
      ⟨-, hstep⟩ | ⟨-, ⟨m, hfetches, -, hslots⟩ | ⟨e, -, -, hslots⟩⟩
    · rw [hstep]
      exact ⟨v, hu, .kept hquiet rfl rfl rfl⟩
    · rw [hslots]
      have hlt := (List.getElem?_eq_some_iff.mp hu).1
      exact ⟨_, List.getElem?_set_self hlt, .fetched rfl hfetches rfl⟩
    · rw [hslots]
      exact ⟨v, hu, .kept hquiet rfl rfl rfl⟩

/-- Of the calls for one unit, only its own `readError` deals with its error block. -/
theorem call_fate (hbus : Bus.KeepsBuffer β) (hg : g.Indexed) (k : Call)
    (hu : g.slots[i.toNat]? = some u) :
    ∃ u', (g.call k).slots[i.toNat]? = some u' ∧ ErrorFate i (g, k) u u' := by
  cases hunit : k.unit? with
  | none =>
    cases k with
    | discover => exact discover_fate hu
    | poll => exact poll_fate hu
    | readError _ | prepare _ | commit _ | apply _ _ => cases hunit
  | some j =>
    have hquiet : ¬ Discovers (g, k) := by
      rintro ⟨hk, -⟩
      obtain rfl : k = .discover := hk
      cases hunit
    by_cases hij : i = j
    · subst hij
      obtain ⟨u', hu', htouched⟩ := touched_call hunit hu
      cases htouched with
      | readError j _ _ =>
        cases hunit
        exact readError_fate hbus hg hu
      | prepare _ _ | commit _ _ | apply _ _ _ _ => exact ⟨_, hu', .kept hquiet rfl rfl rfl⟩
    · have hne : i.toNat ≠ j.toNat := fun h => hij (UInt8.toNat_inj.mp h)
      exact ⟨u, (getElem?_call_of_ne hunit hne).trans hu, .kept hquiet rfl rfl rfl⟩

section Histories

variable {s : Surroundings β} {start : Gateway β} {cs : List (Gateway β × Call)}

/-- A call of the history that was made at this time fetched the block, and it was not forgotten
since. -/
def Traced (cs : List (Gateway β × Call)) (i : UInt8) (block : ErrorImage) (stamp : UInt64) :
    Prop :=
  ∃ (before : List (Gateway β × Call)) (g₁ : Gateway β) (after : List (Gateway β × Call)),
    cs = before ++ (g₁, .readError i) :: after ∧ g₁.link.now = stamp ∧ g₁.Fetches i block ∧
      ∀ c ∈ after, ¬ Discovers c

theorem Traced.snoc {block : ErrorImage} {stamp : UInt64} (h : Traced cs i block stamp)
    {c : Gateway β × Call} (hc : ¬ Discovers c) : Traced (cs ++ [c]) i block stamp := by
  obtain ⟨before, g₁, after, rfl, hstamp, hfetches, hafter⟩ := h
  refine ⟨before, g₁, after ++ [c], by simp, hstamp, hfetches, ?_⟩
  exact List.forall_mem_append.mpr ⟨hafter, List.forall_mem_singleton.mpr hc⟩

/-- The block of a record that has a stamp was fetched when the stamp was taken. -/
theorem History.traced (hbus : Bus.KeepsBuffer β) (h : History s start cs g)
    (hstart : start.Indexed) (hnone : ∀ u ∈ start.slots, u.lastErrorRead = none) {stamp : UInt64}
    (hu : g.slots[i.toNat]? = some u) (hstamp : u.lastErrorRead = some stamp) :
    Traced cs i u.error stamp := by
  induction h generalizing u with
  | start =>
    rw [hnone u (List.mem_of_getElem? hu)] at hstamp
    cases hstamp
  | @call cs h history k ih =>
    have hindexed := history.run.indexed hstart
    have hlt : i.toNat < h.slots.length :=
      hindexed.length_slots.symm ▸ ((hindexed.call k).index_eq hu).1
    obtain ⟨u', hu', hfate⟩ := call_fate hbus hindexed k (List.getElem?_eq_getElem hlt)
    obtain rfl : u' = u := Option.some.inj (hu'.symm.trans hu)
    cases hfate with
    | forgotten _ hforgotten =>
      rw [hforgotten] at hstamp
      cases hstamp
    | kept hquiet hblock hkept =>
      rw [hblock]
      exact (ih (List.getElem?_eq_getElem hlt) (hkept.symm.trans hstamp)).snoc hquiet
    | fetched hk hfetches hnew =>
      obtain rfl : k = .readError i := hk
      exact ⟨cs, h, [], rfl, Option.some.inj (hnew.symm.trans hstamp), hfetches, by simp⟩
  | outside _ _ _ ih => exact ih hu hstamp

/-- Until the next call to read its error block a record keeps the stamp of the last read, unless a
discovery comes in between. -/
theorem History.keeps_stamp (hbus : Bus.KeepsBuffer β) (h : History s start cs g)
    (hstart : start.Indexed) (hcs : ∀ c ∈ cs, ¬ Discovers c ∧ c.2 ≠ .readError i)
    (hu : start.slots[i.toNat]? = some u) :
    ∃ u', g.slots[i.toNat]? = some u' ∧ u'.lastErrorRead = u.lastErrorRead ∧
      u'.present = u.present := by
  induction h with
  | start => exact ⟨u, hu, rfl, rfl⟩
  | @call cs h history k ih =>
    obtain ⟨hbefore, hlast⟩ := List.forall_mem_append.mp hcs
    obtain ⟨hquiet, hother⟩ := hlast (h, k) (List.mem_singleton_self _)
    obtain ⟨v, hv, hstamp, hpresent⟩ := ih hbefore
    obtain ⟨u', hu', hfate⟩ := call_fate hbus (history.run.indexed hstart) k hv
    cases hfate with
    | forgotten hdiscovers _ => exact absurd hdiscovers hquiet
    | kept _ _ hstamp' hpresent' =>
      exact ⟨u', hu', hstamp'.trans hstamp, hpresent'.trans hpresent⟩
    | fetched hk _ _ => exact absurd hk hother
  | outside _ _ _ ih => exact ih hcs

section Call

variable (hbus : Bus.KeepsBuffer β) (hg : g.Indexed)
include hbus hg

theorem slots_of_readError_fails {e : GatewayError} (he : (g.readError i).1 = .error e) :
    (g.readError i).2.slots = g.slots := by
  cases hu : g.present? i with
  | error e' => rw [readError, onPresent_absent hu]
  | ok u =>
    rcases readError_cases hbus hg hu with ⟨-, hcall⟩ | ⟨-, ⟨m, -, hok, -⟩ | ⟨e', -, -, hslots⟩⟩
    · rw [hcall] at he
      cases he
    · rw [hok] at he
      cases he
    · exact hslots

theorem readError_of_fresh (hu : g.slots[i.toNat]? = some u)
    (hfresh : u.errorFresh g.link.now g.settings.cacheErrorS = true) : (g.readError i).2 = g := by
  cases hpresent : g.present? i with
  | error e => rw [readError, onPresent_absent hpresent]
  | ok v =>
    obtain rfl := eq_of_present hpresent hu
    rcases readError_cases hbus hg hpresent with ⟨-, hcall⟩ | ⟨hstale, -⟩
    · rw [hcall]
    · exact absurd hfresh (Bool.eq_false_iff.mp hstale)

theorem readError_of_stale (hu : g.present? i = .ok u)
    (hstale : u.errorFresh g.link.now g.settings.cacheErrorS = false) :
    ∃ ok ended, g.link.Issues (g.link.readIssue .error i ok ended) (g.readError i).2.link := by
  rcases readError_cases hbus hg hu with ⟨hfresh, -⟩ | ⟨-, ⟨m, hfetches, -⟩ | ⟨e, hissues, -⟩⟩
  · exact absurd hfresh (Bool.eq_false_iff.mp hstale)
  · exact ⟨true, _, hfetches.issues⟩
  · exact ⟨false, _, hissues⟩

/-- A block that is handed out comes from this call, or it is the one at hand. -/
theorem readError_serves (hok : (g.readError i).1 = .ok ()) :
    ∃ u, (g.readError i).2.present? i = .ok u ∧ (g.Fetches i u.error ∨
      g.present? i = .ok u ∧ u.errorFresh g.link.now g.settings.cacheErrorS = true) := by
  obtain ⟨u, hu, -⟩ := onPresent_eq_ok.mp hok
  rcases readError_cases hbus hg hu with
    ⟨hfresh, hcall⟩ | ⟨-, ⟨m, hfetches, -, hslots⟩ | ⟨e, -, hfails, -⟩⟩
  · exact ⟨u, by rwa [hcall], .inr ⟨hu, hfresh⟩⟩
  · obtain ⟨hslot, hpresent⟩ := present?_eq_ok.mp hu
    have hlt := (List.getElem?_eq_some_iff.mp hslot).1
    refine ⟨{ u with error := ⟨m⟩, lastErrorRead := some g.link.now }, ?_, .inl hfetches⟩
    rw [present?_eq_ok, hslots]
    exact ⟨List.getElem?_set_self hlt, hpresent⟩
  · rw [hfails] at hok
    cases hok

end Call

/-- What is traced to a time in the window was asked for in the window, and went out no sooner. -/
theorem History.fetched_within (h : History s start cs g) (hclock : g.link.Forward)
    {block : ErrorImage} {stamp : UInt64} (htraced : Traced cs i block stamp) {secs : UInt32}
    (hwindow : g.link.now.toNat - stamp.toNat < secs.toNat * 1000) :
    ∃ before g₁ after, cs = before ++ (g₁, .readError i) :: after ∧ g₁.Fetches i block ∧
      (∀ c ∈ after, ¬ Discovers c) ∧
      g.link.now.toNat < g₁.link.throttle.now.toNat + 1000 * secs.toNat := by
  obtain ⟨before, g₁, after, rfl, rfl, hfetches, hafter⟩ := htraced
  refine ⟨before, g₁, after, rfl, hfetches, hafter, ?_⟩
  have hlast : g₁.link.readIssue .error i true (g₁.readError i).2.link.now ∈
      (g₁.readError i).2.link.issued := by
    rw [hfetches.issues.issued]
    exact List.mem_append_right _ (List.mem_singleton_self _)
  have hcall : (g₁, Call.readError i) ∈ before ++ (g₁, .readError i) :: after := by simp
  have hforward := hclock _ ((h.issued_prefix hcall).subset hlast)
  have hle : g₁.link.now.toNat ≤ g₁.link.throttle.now.toNat := UInt64.le_iff_toNat_le.mp hforward
  omega

/-- In a run over a bus that leaves the buffer of a failed read alone, whatever happens to bus and
clock between the calls, as long as no wait wraps the clock around: the error block that a call to
`readError` ends well with was read from the unit by this call, or by an earlier one that put its
read on the bus less than the error-cache window before this call, with no discovery since. A call
that fails leaves every record as it was. While the stamp of a record lies in the window, a call
leaves the gateway alone, its link included. And the next call after one that failed reads again,
unless the old stamp lies in the window. -/
theorem error_block_recent (hbus : Bus.KeepsBuffer β) {bus : β} {now : UInt64} {device : UInt8}
    {settings : GatewaySettings} (h : History s (.new bus now device settings) cs g)
    (hclock : g.link.Forward) (i : UInt8) :
    ((g.readError i).1 = .ok () → ∃ u, (g.readError i).2.present? i = .ok u ∧
      (g.Fetches i u.error ∨ ∃ before g₁ after, cs = before ++ (g₁, .readError i) :: after ∧
        g₁.Fetches i u.error ∧ (∀ c ∈ after, ¬ Discovers c) ∧
        g.link.now.toNat <
          g₁.link.throttle.now.toNat + 1000 * g.settings.cacheErrorS.toNat)) ∧
    (∀ e, (g.readError i).1 = .error e → (g.readError i).2.slots = g.slots) ∧
    (∀ u, g.slots[i.toNat]? = some u →
      u.errorFresh g.link.now g.settings.cacheErrorS = true → (g.readError i).2 = g) ∧
    ∀ u, g.present? i = .ok u → ∀ e, (g.readError i).1 = .error e →
      ∀ later g₂, History s (g.readError i).2 later g₂ →
        (∀ c ∈ later, ¬ Discovers c ∧ c.2 ≠ .readError i) →
        u.errorFresh g₂.link.now g.settings.cacheErrorS = false →
        ∃ ok ended, g₂.link.Issues (g₂.link.readIssue .error i ok ended)
          (g₂.readError i).2.link := by
  have hstart := indexed_new bus now device settings
  have hindexed := h.run.indexed hstart
  refine ⟨fun hok => ?served, fun e => slots_of_readError_fails hbus hindexed,
    fun u => readError_of_fresh hbus hindexed, ?again⟩
  case served =>
    obtain ⟨u, hu', hfetches | ⟨hu, hfresh⟩⟩ := readError_serves hbus hindexed hok
    · exact ⟨u, hu', .inl hfetches⟩
    · refine ⟨u, hu', .inr ?_⟩
      have hnone : ∀ u ∈ (Gateway.new bus now device settings).slots, u.lastErrorRead = none := by
        intro v hv
        obtain ⟨k, -, rfl⟩ := List.mem_map.mp hv
        rfl
      rw [Slot.errorFresh, stampWithin, Option.any_eq_true] at hfresh
      obtain ⟨stamp, hstamp, hwindow⟩ := hfresh
      have htraced := h.traced hbus hstart hnone (present?_eq_ok.mp hu).1 hstamp
      exact h.fetched_within hclock htraced (of_decide_eq_true hwindow)
  case again =>
    intro u hu e he later g₂ hlater hquiet hstale
    have hindexed' := hindexed.call (.readError i)
    obtain ⟨hslot, hpresent⟩ := present?_eq_ok.mp hu
    rw [← slots_of_readError_fails hbus hindexed he] at hslot
    obtain ⟨u', hu', hstamp, hpresent'⟩ := hlater.keeps_stamp hbus hindexed' hquiet hslot
    have hsettings : g₂.settings = g.settings :=
      hlater.run.settings.trans (g.settings_call (.readError i))
    refine readError_of_stale hbus (hlater.run.indexed hindexed')
      (present?_eq_ok.mpr ⟨hu', hpresent'.trans hpresent⟩) ?_
    rwa [Slot.errorFresh, hstamp, hsettings]

end Histories

/-- The small installation after the error block of unit 1 was read. -/
def demoInquired : Gateway Simulation :=
  ((Gateway.new Simulation.demo 0 1 {}).call .discover).call (.readError 1)

/-- Nine seconds later unit 1 reports something else. -/
def demoChanged : Gateway Simulation :=
  demoInquired.amid (demoInquired.link.bus.setBlock .error 1 ⟨[7, 0], rfl⟩) 9000

/-- Twelve seconds later the error block of unit 1 cannot be read. -/
def demoUnreadable : Gateway Simulation :=
  demoInquired.amid (demoInquired.link.bus.failReads .input (BlockKind.error.address 1) .timeout)
    12000

theorem history_demoInquired : ∃ cs, History (forwardClock Simulation)
    (.new Simulation.demo 0 1 {}) cs demoInquired := by
  unfold demoInquired
  exact ⟨_, (History.start.call .discover).call (.readError 1)⟩

/-- The block that was read nine seconds ago is handed out although the unit has another one by now,
and a read that failed is made again. -/
theorem error_block_recent_demo :
    ((demoChanged.readError 1).1 = .ok () ∧ (demoChanged.readError 1).2 = demoChanged ∧
      ∃ (u : Slot) (g₁ : Gateway Simulation), demoChanged.present? 1 = .ok u ∧
        u.error.image ≠ demoChanged.link.bus.block .error 1 ∧ g₁.Fetches 1 u.error ∧
        9000 < g₁.link.throttle.now.toNat + 1000 * 10) ∧
    (demoUnreadable.readError 1).1 = .error (.bus (.timeout 9 0)) ∧
      ∃ ok ended, (demoUnreadable.call (.readError 1)).link.Issues
        ((demoUnreadable.call (.readError 1)).link.readIssue .error 1 ok ended)
        ((demoUnreadable.call (.readError 1)).readError 1).2.link := by
  obtain ⟨cs, hinquired⟩ := history_demoInquired
  have hforward (t : UInt64) (ht : demoInquired.link.now ≤ t) :
      (forwardClock Simulation).clock demoInquired.link.now t := ht
  constructor
  · have hchanged : History (forwardClock Simulation) (.new Simulation.demo 0 1 {}) cs
        demoChanged := by
      unfold demoChanged
      exact hinquired.outside trivial (hforward _ (by decide +kernel))
    have hclock : demoChanged.link.Forward := by
      unfold BusLink.Forward
      decide +kernel
    have hok : (demoChanged.readError 1).1 = .ok () := by decide +kernel
    have hu : demoChanged.present? 1 = .ok (demoChanged.slots.getD 1 default) := by decide +kernel
    have hfresh : (demoChanged.slots.getD 1 default).errorFresh demoChanged.link.now
        demoChanged.settings.cacheErrorS = true := by decide +kernel
    have hwindow : 1000 * demoChanged.settings.cacheErrorS.toNat = 1000 * 10 := by decide +kernel
    have hnow : demoChanged.link.now.toNat = 9000 := by decide +kernel
    have hother : (demoChanged.slots.getD 1 default).error.image ≠
        demoChanged.link.bus.block .error 1 := by decide +kernel
    obtain ⟨hserved, -, htrusted, -⟩ :=
      error_block_recent Simulation.keepsBuffer hchanged hclock 1
    have hkept := htrusted _ (present?_eq_ok.mp hu).1 hfresh
    obtain ⟨u, hu', horigin⟩ := hserved hok
    rw [hkept] at hu'
    rw [Except.ok.inj (hu'.symm.trans hu)] at horigin
    rcases horigin with hfetches | ⟨before, g₁, after, -, hfetches, -, hrecent⟩
    · have hissued := hfetches.issues.issued
      rw [hkept] at hissued
      simp at hissued
    · rw [hwindow, hnow] at hrecent
      exact ⟨hok, hkept, _, g₁, hu, hother, hfetches, hrecent⟩
  · have hunreadable : History (forwardClock Simulation) (.new Simulation.demo 0 1 {}) cs
        demoUnreadable := by
      unfold demoUnreadable
      exact hinquired.outside trivial (hforward _ (by decide +kernel))
    have hclock : demoUnreadable.link.Forward := by
      unfold BusLink.Forward
      decide +kernel
    have hfails : (demoUnreadable.readError 1).1 = .error (.bus (.timeout 9 0)) := by decide +kernel
    have hu : demoUnreadable.present? 1 = .ok (demoUnreadable.slots.getD 1 default) := by
      decide +kernel
    have hstale : (demoUnreadable.slots.getD 1 default).errorFresh
        (demoUnreadable.call (.readError 1)).link.now demoUnreadable.settings.cacheErrorS =
          false := by
      decide +kernel
    obtain ⟨-, -, -, hagain⟩ := error_block_recent Simulation.keepsBuffer hunreadable hclock 1
    exact ⟨hfails, hagain _ hu _ hfails [] _ .start (by simp) hstale⟩

end Gateway

end ClimateBus
