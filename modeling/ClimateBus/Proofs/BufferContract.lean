import ClimateBus.Proofs.Transfers
import ClimateBus.Proofs.RegisterMap
import ClimateBus.Serial.Rehearsal
import Mathlib

/-!
What a read leaves in the buffer, on a serial line and on the simulated adapter.

Neither bus touches the buffer unless the read succeeds. Then all of it is replaced: a master takes
the registers out of the reply, which therefore is the frame made of them (`Master.read_eq_ok_iff`),
and the simulated adapter takes them from its tables, where a register holds what was last stored
there, or zero (`Simulation.registers_afterStores`).
-/
namespace ClimateBus

namespace Exchange

variable {l : Type} [Link l] {link : l} {s : MasterSettings} {request reply : Bytes}
  {expected : Nat}

/-- No byte is collected that was not asked for. -/
theorem length_collect_le {got : Bytes} (hgot : got.length ≤ expected)
    (h : (collect link expected got).1 = .ok reply) : reply.length ≤ expected := by
  fun_induction collect link expected got with
  | case1 link got hlt link' hpassed => rwa [← Except.ok.inj h]
  | case2 link got hlt passed link' hpassed hopen e link'' hreceive => cases h
  | case3 link got hlt passed link' hpassed hopen chunk link'' hreceive hnone =>
    rwa [← Except.ok.inj h]
  | case4 link got hlt passed link' hpassed hopen chunk link'' hreceive byte more hsome ih =>
    refine ih ?_ h
    have hbrought := congrArg List.length hsome
    simp only [List.length_take, List.length_cons] at hbrought
    simp only [List.length_append, List.length_cons]
    omega
  | case5 link got hfull => rwa [← Except.ok.inj h]

theorem length_transceive_le (h : (transceive link s request expected).1 = .ok reply) :
    reply.length ≤ expected := by
  rw [transceive_eq] at h
  split at h
  · cases h
  · split at h
    · cases h
    next reply' link' hcollect =>
      split_ifs at h
      rw [← Except.ok.inj h]
      exact length_collect_le (Nat.zero_le _) (congrArg Prod.fst hcollect)

end Exchange

namespace Master

variable {l : Type} [Link l]

theorem keepsBuffer (l : Type) [Link l] : Bus.KeepsBuffer (Master l) := by
  intro m n table address buffer e h
  simp only [Bus.read] at h ⊢
  split at h
  · rfl
  · cases h

/-- A read succeeds if its reply is the one that carries as many registers as there is room for, and
then the buffer is made of these. -/
theorem read_eq_ok_iff {m : Master l} {n : Nat} {table : Table} {address : UInt16}
    {buffer : Image n} {ws : Words} :
    (Bus.read m table address buffer).result = .ok () ∧
        (Bus.read m table address buffer).buffer.words = ws ↔
      (n ≠ 0 ∧ Frame.readReplyLength n ≤ Frame.maxReadReply) ∧ ws.length = n ∧
        (Exchange.transceive m.link m.settings
          (Frame.readRequest m.settings.slave (readFunction table) address (UInt16.ofNat n))
          (Frame.readReplyLength n)).1 =
            .ok (Frame.replyOf m.settings.slave (readFunction table) ws) := by
  let x := Transfer.read table address buffer
  have hrun : (Bus.read m table address buffer).result = .ok () ∧
      (Bus.read m table address buffer).buffer.words = ws ↔ (x.run m).1 = .ok ws := by
    simp only [x, Transfer.run]
    cases (Bus.read m table address buffer).result <;> simp [Except.map]
  rw [hrun, Transfer.run_eq_ok_iff]
  apply and_congr_right
  intro hx
  have hcount := Transfer.toNat_count hx.2
  constructor
  · rintro ⟨reply, hreply, hverdict⟩
    have hread := Transfer.verdict_read_eq_ok_iff.mp hverdict
    have hlength : reply.length ≤ Frame.readReplyLength n := Exchange.length_transceive_le hreply
    have htake := Frame.take_of_readReply hread
    rw [hcount, List.take_of_length_le hlength] at htake
    exact ⟨(Frame.length_of_readReply hread).trans hcount, htake ▸ hreply⟩
  · rintro ⟨hlength, hreply⟩
    refine ⟨_, hreply, Transfer.verdict_read_eq_ok_iff.mpr ?_⟩
    apply Frame.readReply_of_take (hlength.trans hcount.symm)
    rw [hcount, ← hlength, ← Frame.length_replyOf, List.take_length]

end Master

/-- Words that were stored in one of the tables. -/
structure Stored where
  table : Table
  address : UInt16
  words : Words

namespace Stored

/-- The word that was stored in a register, if this register was among the stored ones. -/
def word? (t : Table) (a : UInt16) (x : Stored) : Option UInt16 :=
  if t = x.table then x.words[(a - x.address).toNat]? else none

/-- The word that was stored in a register last. -/
def last (stores : List Stored) (t : Table) (a : UInt16) : Option UInt16 :=
  stores.reverse.findSome? (word? t a)

theorem last_append (stores : List Stored) (x : Stored) (t : Table) (a : UInt16) :
    last (stores ++ [x]) t a = (x.word? t a).or (last stores t a) := by
  rw [last, List.reverse_append, List.reverse_singleton, List.singleton_append,
    List.findSome?_cons]
  cases x.word? t a <;> rfl

end Stored

namespace Simulation

variable {s : Simulation} {stores : List Stored}

/-- What is in the tables after some words were stored, one after the other. -/
def afterStores (s : Simulation) (stores : List Stored) : Simulation :=
  stores.foldl (fun s x => s.store x.table x.address x.words) s

theorem afterStores_append (s : Simulation) (stores more : List Stored) :
    s.afterStores (stores ++ more) = (s.afterStores stores).afterStores more :=
  List.foldl_append

theorem registers_store (s : Simulation) (x : Stored) (t : Table) (a : UInt16) :
    (s.store x.table x.address x.words).registers t a = (x.word? t a).getD (s.registers t a) := by
  simp only [store, Stored.word?]
  split_ifs with htable
  · subst htable
    rw [overlay]
    cases x.words[(a - x.address).toNat]? <;> rfl
  · rfl

/-- A register holds what was last stored in it, or zero. -/
theorem registers_afterStores (stores : List Stored) (t : Table) (a : UInt16) :
    (empty.afterStores stores).registers t a = (Stored.last stores t a).getD 0 := by
  induction stores using List.reverseRecOn with
  | nil => rfl
  | append_singleton stores x ih =>
    rw [afterStores_append, Stored.last_append]
    show ((empty.afterStores stores).store x.table x.address x.words).registers t a = _
    rw [registers_store, ih]
    cases x.word? t a <;> rfl

/-- The tables hold what was stored in them and nothing else. -/
def Holds (s : Simulation) (stores : List Stored) : Prop :=
  s.registers = (empty.afterStores stores).registers

theorem holds_empty : empty.Holds [] := rfl

theorem Holds.store (h : s.Holds stores) (x : Stored) :
    (s.store x.table x.address x.words).Holds (stores ++ [x]) := by
  funext t a
  rw [afterStores_append]
  show _ = ((empty.afterStores stores).store x.table x.address x.words).registers t a
  rw [registers_store, registers_store, h]

theorem keepsBuffer : Bus.KeepsBuffer Simulation := by
  intro s n table address buffer e h
  simp only [Bus.read, readRegisters] at h ⊢
  split_ifs at h ⊢ with hnone
  · rfl
  · split
    · rfl
    next hfault =>
      rw [hfault] at h
      cases h

variable {n : Nat} {table : Table} {address : UInt16} {buffer : Image n}

theorem read_eq_ok_iff : (Bus.read s table address buffer).result = .ok () ↔
    n ≠ 0 ∧ s.readFault table address = none := by
  simp only [Bus.read, readRegisters, record]
  split_ifs with hnone
  · simp [hnone]
  · cases s.readFault table address with
    | some f => simp
    | none => simp [hnone]

theorem words_of_read (h : (Bus.read s table address buffer).result = .ok ()) {k : Nat}
    (hk : k < n) : (Bus.read s table address buffer).buffer.words[k]? =
      some (s.registers table (address + UInt16.ofNat k)) := by
  obtain ⟨hsome, hfault⟩ := read_eq_ok_iff.mp h
  simp [Bus.read, readRegisters, record, hsome, hfault, load, Image.ofFn, hk]

end Simulation

/-- Neither bus touches the buffer of a read that fails. A master's read succeeds just if the reply
carries as many registers as there is room for, and these are the words in the buffer then. After a
simulated read the buffer has the words that the tables hold from the address on, where a register
in which nothing was stored is zero. -/
theorem Bus.read_all_or_nothing :
    (∀ (l : Type) [Link l], Bus.KeepsBuffer (Master l) ∧
      ∀ (m : Master l) (n : Nat) (table : Table) (address : UInt16) (buffer : Image n) (ws : Words),
        let slave := m.settings.slave
        let f := Master.readFunction table
        (Bus.read m table address buffer).result = .ok () ∧
            (Bus.read m table address buffer).buffer.words = ws ↔
          (n ≠ 0 ∧ Frame.readReplyLength n ≤ Frame.maxReadReply) ∧ ws.length = n ∧
            (Exchange.transceive m.link m.settings
                (Frame.readRequest slave f address (UInt16.ofNat n)) (Frame.readReplyLength n)).1 =
              .ok (Frame.replyOf slave f ws)) ∧
      Bus.KeepsBuffer Simulation ∧
        ∀ (s : Simulation) (n : Nat) (table : Table) (address : UInt16) (buffer : Image n),
          ((Bus.read s table address buffer).result = .ok () ↔
            n ≠ 0 ∧ s.readFault table address = none) ∧
          ((Bus.read s table address buffer).result = .ok () → ∀ k < n,
            (Bus.read s table address buffer).buffer.words[k]? =
                some (s.registers table (address + UInt16.ofNat k)) ∧
              ∀ stores, s.Holds stores → s.registers table (address + UInt16.ofNat k) =
                (Stored.last stores table (address + UInt16.ofNat k)).getD 0) := by
  refine ⟨?line, Simulation.keepsBuffer, ?simulated⟩
  case line =>
    intro l _
    constructor
    · exact Master.keepsBuffer l
    · intro m n table address buffer ws slave f
      exact Master.read_eq_ok_iff
  case simulated =>
    intro s n table address buffer
    constructor
    · exact Simulation.read_eq_ok_iff
    · intro h k hk
      constructor
      · exact Simulation.words_of_read h hk
      · intro stores hholds
        rw [hholds, Simulation.registers_afterStores]

section Demo

/-- A master whose line delivers some bytes. -/
def answeredMaster (reply : Bytes) : Master ScriptedLink :=
  ⟨{ script := { receptions := [.deliver reply false] } }, {}⟩

/-- An adapter in which two words were stored across the end of a table. -/
def wrappedSimulation : Simulation := Simulation.empty.store .input 0xFFFF [7, 8]

theorem Bus.read_all_or_nothing_demo :
    let reply : Bytes := [0x01, 0x04, 0x04, 0x00, 0x03, 0x80, 0x01, 0xab, 0x84]
    let read := Bus.read (answeredMaster reply) .input 2000 (Image.filled 2 9)
    let refused := Bus.read (answeredMaster (reply.set 0 0x02)) .input 2000 (Image.filled 2 9)
    let simulated := Bus.read wrappedSimulation .input 0xFFFF (Image.filled 3 9)
    let failed := Bus.read (wrappedSimulation.failReads .input 0xFFFF .check) .input 0xFFFF
      (Image.filled 3 9)
    (read.result = .ok () ∧ read.buffer.words = [3, 0x8001]) ∧
      refused.buffer = Image.filled 2 9 ∧ failed.buffer = Image.filled 3 9 ∧
        simulated.buffer.words = [7, 8, 0] ∧ ∀ k < 3, simulated.buffer.words[k]? = some
          ((Stored.last [⟨.input, 0xFFFF, [7, 8]⟩] .input (0xFFFF + UInt16.ofNat k)).getD 0) := by
  intro reply read refused simulated failed
  obtain ⟨hmaster, hkeeps, hsimulated⟩ := Bus.read_all_or_nothing
  obtain ⟨hkept, hread⟩ := hmaster ScriptedLink
  have hcollected : (Exchange.transceive (answeredMaster reply).link (answeredMaster reply).settings
      (Frame.readRequest 1 .readInput 2000 2) 9).1 =
        .ok (Frame.replyOf 1 .readInput [3, 0x8001]) := by
    decide +kernel
  have hok := (hread _ 2 .input 2000 (Image.filled 2 9) _).mpr ⟨by decide, rfl, hcollected⟩
  refine ⟨hok, ?_, ?_, by decide +kernel, ?_⟩
  · exact hkept _ 2 .input 2000 _ (.framing "slave id") (by decide +kernel)
  · exact hkeeps _ 3 .input 0xFFFF _ (.checkMismatch 0x0000 0xFFFF) (by decide +kernel)
  · intro k hk
    obtain ⟨hok, hwords⟩ := hsimulated wrappedSimulation 3 .input 0xFFFF (Image.filled 3 9)
    obtain ⟨hword, hstored⟩ := hwords (hok.mpr ⟨by decide, rfl⟩) k hk
    rw [hword, hstored _ (Simulation.holds_empty.store ⟨.input, 0xFFFF, [7, 8]⟩)]
    rfl

end Demo

end ClimateBus
