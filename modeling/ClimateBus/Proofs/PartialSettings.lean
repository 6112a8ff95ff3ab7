import ClimateBus.Settings.Basic
import Mathlib

/-!
Settings that are given in part.

Each setting is read on its own, and what is not given keeps its default. So a tree that gives some
of the settings of a record stands for the defaults with these replaced (`Settings.partly`), and one
that gives all of them stands for the record.
-/
namespace ClimateBus

/-- What is written has no parts and is read back, and at most one value is left out. -/
class LawfulSpelled (α : Type) [Spelled α] : Prop where
  read_write {v : α} {t : Tree} (d : Dialect) (h : Spelled.write v = some t) :
    Spelled.read d t = some v
  elementary {v : α} {t : Tree} (h : Spelled.write v = some t) : t.Elementary
  eq_of_omitted {v w : α} (hv : Spelled.write v = none) (hw : Spelled.write w = none) : v = w

namespace LawfulSpelled

variable {α : Type} [Spelled α]

/-- A spelling that leaves no value out. -/
theorem of_total (tree : α → Tree) (hwrite : ∀ v : α, Spelled.write v = some (tree v))
    (hread : ∀ d v, Spelled.read d (tree v) = some v) (helementary : ∀ v, (tree v).Elementary) :
    LawfulSpelled α where
  read_write d h := by
    rw [hwrite] at h
    obtain rfl := Option.some.inj h
    exact hread d _
  elementary h := by
    rw [hwrite] at h
    obtain rfl := Option.some.inj h
    exact helementary _
  eq_of_omitted {v w} hv := by
    rw [hwrite] at hv
    cases hv

/-- A number is written as it is and read if it is below the bound of its type. -/
theorem of_number {bound : Nat} (toNat : α → Nat) (ofNat : Nat → α)
    (hwrite : ∀ v : α, Spelled.write v = some (.whole (toNat v)))
    (hread : ∀ d t, Spelled.read (α := α) d t = (Spelled.readNat bound t).map ofNat)
    (hbound : ∀ v, toNat v < bound) (hof : ∀ v, ofNat (toNat v) = v) : LawfulSpelled α := by
  refine of_total (fun v => .whole (toNat v)) hwrite (fun d v => ?_) fun _ => trivial
  have hnat : Spelled.readNat bound (.whole (toNat v)) = some (toNat v) :=
    if_pos ⟨Int.natCast_nonneg _, Int.ofNat_lt.mpr (hbound v)⟩
  rw [hread, hnat, Option.map_some, hof]

instance : LawfulSpelled Bool :=
  .of_total .flag (fun _ => rfl) (fun _ _ => rfl) fun _ => trivial

instance : LawfulSpelled String :=
  .of_total .text (fun _ => rfl) (fun _ _ => rfl) fun _ => trivial

instance : LawfulSpelled UInt8 :=
  of_number UInt8.toNat UInt8.ofNat (fun _ => rfl) (fun _ _ => rfl) UInt8.toNat_lt
    fun _ => UInt8.ofNat_toNat

instance : LawfulSpelled UInt32 :=
  of_number UInt32.toNat UInt32.ofNat (fun _ => rfl) (fun _ _ => rfl) UInt32.toNat_lt
    fun _ => UInt32.ofNat_toNat

instance : LawfulSpelled UInt64 :=
  of_number UInt64.toNat UInt64.ofNat (fun _ => rfl) (fun _ _ => rfl) UInt64.toNat_lt
    fun _ => UInt64.ofNat_toNat

instance : LawfulSpelled Parity :=
  .of_total (fun p => .text p.name) (fun _ => rfl) (fun _ p => by cases p <;> rfl) fun _ => trivial

instance : LawfulSpelled ControlLine :=
  .of_total (fun l => .text l.name) (fun _ => rfl) (fun _ l => by cases l <;> rfl) fun _ => trivial

/-- Only the missing value is left out, unless the type has another that is. -/
theorem option (htotal : ∀ v : α, Spelled.write v ≠ none) [LawfulSpelled α] :
    LawfulSpelled (Option α) where
  read_write {v t} d h := by
    obtain ⟨v, rfl, hv⟩ := Option.bind_eq_some_iff.mp h
    have hread : (Spelled.read d t).map some = some (some v) := by rw [read_write d hv]; rfl
    cases t with
    | absent => exact (elementary hv).elim
    | _ => exact hread
  elementary h := by
    obtain ⟨v, -, hv⟩ := Option.bind_eq_some_iff.mp h
    exact elementary hv
  eq_of_omitted {v w} hv hw := by
    have hnone : ∀ u : Option α, Spelled.write u = none → u = none := by
      rintro (_ | u) hu
      · rfl
      · exact absurd hu (htotal u)
    rw [hnone v hv, hnone w hw]

instance : LawfulSpelled (Option ControlLine) := option nofun

instance : LawfulSpelled (Option String) := option nofun

end LawfulSpelled

namespace Settings

/-- The defaults with the settings that are kept, each told by its section and its key. -/
def partly (keep : String → String → Bool) (c : Settings) : Settings :=
  let pick {α : Type} (name key : String) (get : Settings → α) : α :=
    if keep name key then get c else get {}
  { serial := {
      port := pick "serial" "port" (·.serial.port)
      baudRate := pick "serial" "baud_rate" (·.serial.baudRate)
      dataBits := pick "serial" "data_bits" (·.serial.dataBits)
      stopBits := pick "serial" "stop_bits" (·.serial.stopBits)
      parity := pick "serial" "parity" (·.serial.parity) }
    master := {
      slave := pick "rtu" "slave_id" (·.master.slave)
      timeoutMs := pick "rtu" "timeout_ms" (·.master.timeoutMs)
      txEnable := pick "rtu" "tx_enable" (·.master.txEnable)
      rxEnable := pick "rtu" "rx_enable" (·.master.rxEnable) }
    gateway := {
      pollIntervalS := pick "gateway" "poll_interval_s" (·.gateway.pollIntervalS)
      throttleMs := pick "gateway" "throttle_ms" (·.gateway.throttleMs)
      cacheWriteS := pick "gateway" "cache_write_s" (·.gateway.cacheWriteS)
      cacheErrorS := pick "gateway" "cache_error_s" (·.gateway.cacheErrorS) }
    supervisor := {
      statusIntervalS := pick "bridge" "status_interval_s" (·.supervisor.statusIntervalS)
      pollLockMs := pick "bridge" "poll_lock_ms" (·.supervisor.pollLockMs)
      statusLockMs := pick "bridge" "status_lock_ms" (·.supervisor.statusLockMs)
      commandLockMs := pick "bridge" "command_lock_ms" (·.supervisor.commandLockMs)
      queryLockMs := pick "bridge" "query_lock_ms" (·.supervisor.queryLockMs)
      logCapacity := pick "bridge" "log_capacity" (·.supervisor.logCapacity) }
    logging := {
      level := pick "logging" "level" (·.logging.level)
      json := pick "logging" "json" (·.logging.json)
      file := pick "logging" "file" (·.logging.file)
      directory := pick "logging" "directory" (·.logging.directory)
      followRing := pick "logging" "follow_ring" (·.logging.followRing) } }

theorem partly_all (c : Settings) : c.partly (fun _ _ => true) = c := rfl

/-- What a section of a tree gives; a section that is left out gives nothing. -/
def Section.GivenBy (x : Section) (given inner : List (String × Tree)) : Prop :=
  given.lookup x.name = some (.table inner) ∨ given.lookup x.name = none ∧ inner = []

/-- What is given for a section are just the settings that are kept, with the values they have in a
record. -/
def Section.Gives (x : Section) (keep : String → String → Bool) (c : Settings)
    (given : List (String × Tree)) : Prop :=
  ∃ inner, x.GivenBy given inner ∧
    ∀ e ∈ x.entries, inner.lookup e.key = if keep x.name e.key then e.write c else none

/-- A tree gives just the settings that are kept, with the values they have in a record. -/
def Gives (keep : String → String → Bool) (c : Settings) (t : Tree) : Prop :=
  ∃ given, t = .table given ∧ ∀ x ∈ sections, x.Gives keep c given

section

variable {d : Dialect} {given inner : List (String × Tree)} {s c : Settings}

theorem foldlM_apply_nil (entries : List Entry) :
    entries.foldlM (Entry.apply d []) s = some s := by
  induction entries with
  | nil => rfl
  | cons e entries ih => exact ih

theorem Section.apply_of_givenBy {x : Section} (h : x.GivenBy given inner) :
    x.apply d given s = x.entries.foldlM (Entry.apply d inner) s := by
  rw [Section.apply]
  rcases h with h | ⟨h, rfl⟩
  · rw [h]
    rfl
  · rw [h, foldlM_apply_nil]

/-- A setting that is kept takes its value, also if it is left out because its value is the default;
any other stays. -/
theorem foldlM_apply_entry {α : Type} [Spelled α] [LawfulSpelled α] {key : String}
    {get : Settings → α} {set : Settings → α → Settings} {entries : List Entry} {kept : Bool}
    (hgiven : inner.lookup key = if kept then Spelled.write (get c) else none)
    (hset : set s (get s) = s)
    (homit : Spelled.write (get c) = none → Spelled.write (get s) = none) :
    (entry key get set :: entries).foldlM (Entry.apply d inner) s =
      entries.foldlM (Entry.apply d inner) (set s (if kept then get c else get s)) := by
  have happly : Entry.apply d inner s (entry key get set) =
      some (set s (if kept then get c else get s)) := by
    unfold Entry.apply
    cases kept with
    | false =>
      have hnone : inner.lookup (entry key get set).key = none := hgiven
      rw [hnone]
      exact congrArg some hset.symm
    | true =>
      rw [if_pos rfl] at hgiven ⊢
      cases hwrite : Spelled.write (get c) with
      | none =>
        have hnone : inner.lookup (entry key get set).key = none := hgiven.trans hwrite
        have hsame : get c = get s := LawfulSpelled.eq_of_omitted hwrite (homit hwrite)
        rw [hnone, hsame, hset]
      | some t =>
        have hsome : inner.lookup (entry key get set).key = some t := hgiven.trans hwrite
        have hread : Spelled.read d t = some (get c) := LawfulSpelled.read_write d hwrite
        rw [hsome]
        change (Spelled.read d t).map (set s) = _
        rw [hread, Option.map_some]
  rw [List.foldlM_cons, happly]
  rfl

variable {keep : String → String → Bool}

theorem serialSection_apply (h : serialSection.Gives keep c given) (hs : s.serial = {}) :
    serialSection.apply d given s = some { s with serial := (c.partly keep).serial } := by
  obtain ⟨serial, master, gateway, supervisor, logging⟩ := s
  obtain rfl : serial = {} := hs
  obtain ⟨inner, hinner, hentries⟩ := h
  simp only [serialSection, List.forall_mem_cons] at hentries
  obtain ⟨hport, hbaud, hdata, hstop, hparity, -⟩ := hentries
  rw [Section.apply_of_givenBy hinner, serialSection]
  rw [foldlM_apply_entry hport rfl (by nofun), foldlM_apply_entry hbaud rfl (by nofun),
    foldlM_apply_entry hdata rfl (by nofun), foldlM_apply_entry hstop rfl (by nofun),
    foldlM_apply_entry hparity rfl (by nofun)]
  rfl

theorem masterSection_apply (h : masterSection.Gives keep c given) (hs : s.master = {}) :
    masterSection.apply d given s = some { s with master := (c.partly keep).master } := by
  obtain ⟨serial, master, gateway, supervisor, logging⟩ := s
  obtain rfl : master = {} := hs
  obtain ⟨inner, hinner, hentries⟩ := h
  simp only [masterSection, List.forall_mem_cons] at hentries
  obtain ⟨hslave, htimeout, htx, hrx, -⟩ := hentries
  rw [Section.apply_of_givenBy hinner, masterSection]
  rw [foldlM_apply_entry hslave rfl (by nofun), foldlM_apply_entry htimeout rfl (by nofun),
    foldlM_apply_entry htx rfl (fun _ => rfl), foldlM_apply_entry hrx rfl (fun _ => rfl)]
  rfl

theorem gatewaySection_apply (h : gatewaySection.Gives keep c given) (hs : s.gateway = {}) :
    gatewaySection.apply d given s = some { s with gateway := (c.partly keep).gateway } := by
  obtain ⟨serial, master, gateway, supervisor, logging⟩ := s
  obtain rfl : gateway = {} := hs
  obtain ⟨inner, hinner, hentries⟩ := h
  simp only [gatewaySection, List.forall_mem_cons] at hentries
  obtain ⟨hpoll, hthrottle, hwrite, herror, -⟩ := hentries
  rw [Section.apply_of_givenBy hinner, gatewaySection]
  rw [foldlM_apply_entry hpoll rfl (by nofun), foldlM_apply_entry hthrottle rfl (by nofun),
    foldlM_apply_entry hwrite rfl (by nofun), foldlM_apply_entry herror rfl (by nofun)]
  rfl

theorem supervisorSection_apply (h : supervisorSection.Gives keep c given)
    (hs : s.supervisor = {}) : supervisorSection.apply d given s =
      some { s with supervisor := (c.partly keep).supervisor } := by
  obtain ⟨serial, master, gateway, supervisor, logging⟩ := s
  obtain rfl : supervisor = {} := hs
  obtain ⟨inner, hinner, hentries⟩ := h
  simp only [supervisorSection, List.forall_mem_cons] at hentries
  obtain ⟨hstatus, hpollLock, hstatusLock, hcommandLock, hqueryLock, hlog, -⟩ := hentries
  rw [Section.apply_of_givenBy hinner, supervisorSection]
  rw [foldlM_apply_entry hstatus rfl (by nofun), foldlM_apply_entry hpollLock rfl (by nofun),
    foldlM_apply_entry hstatusLock rfl (by nofun), foldlM_apply_entry hcommandLock rfl (by nofun),
    foldlM_apply_entry hqueryLock rfl (by nofun), foldlM_apply_entry hlog rfl (by nofun)]
  rfl

theorem loggingSection_apply (h : loggingSection.Gives keep c given) (hs : s.logging = {}) :
    loggingSection.apply d given s = some { s with logging := (c.partly keep).logging } := by
  obtain ⟨serial, master, gateway, supervisor, logging⟩ := s
  obtain rfl : logging = {} := hs
  obtain ⟨inner, hinner, hentries⟩ := h
  simp only [loggingSection, List.forall_mem_cons] at hentries
  obtain ⟨hlevel, hjson, hfile, hdirectory, hring, -⟩ := hentries
  rw [Section.apply_of_givenBy hinner, loggingSection]
  rw [foldlM_apply_entry hlevel rfl (by nofun), foldlM_apply_entry hjson rfl (by nofun),
    foldlM_apply_entry hfile rfl (by nofun), foldlM_apply_entry hdirectory rfl (fun _ => rfl),
    foldlM_apply_entry hring rfl (by nofun)]
  rfl

end

/-- A tree that gives some settings of a record stands for the defaults with these replaced. -/
theorem ofTree_of_gives {keep : String → String → Bool} {c : Settings} {t : Tree}
    (h : Gives keep c t) : ofTree .toml t = some (c.partly keep) := by
  obtain ⟨given, rfl, hgiven⟩ := h
  simp only [sections, List.forall_mem_cons] at hgiven
  obtain ⟨hserial, hmaster, hgateway, hsupervisor, hlogging, -⟩ := hgiven
  change sections.foldlM (Section.apply .toml given) {} = _
  simp only [sections, List.foldlM_cons, Option.bind_eq_bind, serialSection_apply hserial,
    masterSection_apply hmaster, gatewaySection_apply hgateway,
    supervisorSection_apply hsupervisor, loggingSection_apply hlogging, Option.bind_some]
  rfl

/-- What is written for the settings that are kept, each under its key. -/
def written (kept : String → Bool) (c : Settings) (entries : List Entry) : List (String × Tree) :=
  entries.filterMap fun e => if kept e.key then (e.write c).map fun t => (e.key, t) else none

/-- The document of the settings that are kept. -/
def chosen (keep : String → String → Bool) (c : Settings) : List Toml.Section :=
  sections.map fun x => (x.name, written (keep x.name) c x.entries)

theorem chosen_all (c : Settings) : c.chosen (fun _ _ => true) = c.toSections := rfl

section

variable {kept : String → Bool} {c : Settings} {e : Entry} {entries : List Entry}

theorem key_mem_of_mem_written {e : String × Tree} (h : e ∈ written kept c entries) :
    e.1 ∈ entries.map (·.key) := by
  obtain ⟨e', he', he⟩ := List.mem_filterMap.mp h
  split_ifs at he
  obtain ⟨t, -, rfl⟩ := Option.map_eq_some_iff.mp he
  exact List.mem_map_of_mem he'

theorem written_keys_sublist :
    ((written kept c entries).map Prod.fst).Sublist (entries.map (·.key)) := by
  induction entries with
  | nil => exact .slnil
  | cons e entries ih =>
    rw [written, List.filterMap_cons, List.map_cons]
    split
    next => exact .cons _ ih
    next e' he =>
      split_ifs at he
      obtain ⟨t, -, rfl⟩ := Option.map_eq_some_iff.mp he
      exact .cons_cons _ ih

theorem lookup_written_cons (key : String) : (written kept c (e :: entries)).lookup key =
    (if key = e.key ∧ kept key then e.write c else none).or
      ((written kept c entries).lookup key) := by
  rw [written, List.filterMap_cons]
  by_cases hkey : key = e.key
  · subst hkey
    cases kept e.key <;> cases e.write c <;> simp [written]
  · have hne : (key == e.key) = false := beq_false_of_ne hkey
    cases kept e.key <;> cases e.write c <;> simp [written, hkey, List.lookup_cons, hne]

/-- Under the key of a setting stands what is written for it, if it is kept. -/
theorem lookup_written (hkeys : (entries.map (·.key)).Nodup) (he : e ∈ entries) :
    (written kept c entries).lookup e.key = if kept e.key then e.write c else none := by
  induction entries with
  | nil => cases he
  | cons e' entries ih =>
    rw [List.map_cons, List.nodup_cons] at hkeys
    rw [lookup_written_cons]
    rcases List.mem_cons.mp he with rfl | he
    · have hnone : (written kept c entries).lookup e.key = none := by
        rw [List.lookup_eq_none_iff]
        intro e' he'
        refine bne_iff_ne.mpr fun hkey => hkeys.1 ?_
        exact hkey ▸ key_mem_of_mem_written he'
      simp only [hnone, true_and, Option.or_none]
    · have hne : e.key ≠ e'.key := fun hkey => hkeys.1 (hkey ▸ List.mem_map_of_mem he)
      rw [if_neg fun h => hne h.1, Option.none_or, ih hkeys.2 he]

end

theorem bare_names : ∀ x ∈ sections, Toml.Bare x.name ∧ ∀ e ∈ x.entries, Toml.Bare e.key := by
  simp [sections, serialSection, masterSection, gatewaySection, supervisorSection, loggingSection,
    entry, Toml.Bare, Toml.isKeyChar]

theorem nodup_names : (sections.map (·.name)).Nodup := by decide +kernel

theorem nodup_keys : ∀ x ∈ sections, (x.entries.map (·.key)).Nodup := by decide +kernel

/-- No setting is written as something with parts. -/
theorem elementary_of_write :
    ∀ x ∈ sections, ∀ e ∈ x.entries, ∀ c t, e.write c = some t → t.Elementary := by
  simp only [sections, serialSection, masterSection, gatewaySection, supervisorSection,
    loggingSection, entry, List.forall_mem_cons, List.not_mem_nil, IsEmpty.forall_iff,
    implies_true, and_true]
  and_intros <;> exact fun _ _ => LawfulSpelled.elementary

theorem chosen_wellFormed (keep : String → String → Bool) (c : Settings) :
    Toml.WellFormed (c.chosen keep) where
  names := by
    have hnames : (c.chosen keep).map Prod.fst = sections.map (·.name) := by
      rw [chosen, List.map_map]
      rfl
    rw [hnames]
    exact nodup_names
  bare s hs := by
    obtain ⟨x, hx, rfl⟩ := List.mem_map.mp hs
    exact (bare_names x hx).1
  keys s hs := by
    obtain ⟨x, hx, rfl⟩ := List.mem_map.mp hs
    exact (nodup_keys x hx).sublist written_keys_sublist
  bareKeys s hs e he := by
    obtain ⟨x, hx, rfl⟩ := List.mem_map.mp hs
    obtain ⟨e', he', hkey⟩ := List.mem_map.mp (key_mem_of_mem_written he)
    exact hkey ▸ (bare_names x hx).2 e' he'
  values s hs e he := by
    obtain ⟨x, hx, rfl⟩ := List.mem_map.mp hs
    obtain ⟨e', he', hwritten⟩ := List.mem_filterMap.mp he
    split_ifs at hwritten
    obtain ⟨t, ht, rfl⟩ := Option.map_eq_some_iff.mp hwritten
    exact elementary_of_write x hx e' he' c t ht

theorem gives_chosen (keep : String → String → Bool) (c : Settings) :
    Gives keep c (.table ((c.chosen keep).map fun s => (s.1, .table s.2))) := by
  refine ⟨_, rfl, fun x hx => ⟨written (keep x.name) c x.entries, .inl ?_, ?_⟩⟩
  · simp only [sections, List.mem_cons, List.not_mem_nil, or_false] at hx
    rcases hx with rfl | rfl | rfl | rfl | rfl <;> rfl
  · exact fun e he => lookup_written (nodup_keys x hx) he

end Settings

end ClimateBus
