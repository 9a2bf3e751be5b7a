import EdgeSensor.Lib.Run
import Mathlib.Algebra.Order.Ring.Rat
import Mathlib.Data.List.Pairwise

/-!
# Forwarding a file when it is newer

One party replaces a file, again and again and as a whole. Another forwards it: it looks at the
file's modification time, goes on if that is later than the one it remembers, reads the file
and sends it, and remembers the time it looked at if the sending is confirmed. The file may be
replaced between the look and the read; then a newer content goes out under an older time, and
goes out once more at the next attempt.

`Inv` says that what was sent last is no older than the time remembered. So nothing is lost
(`Inv.sent_current`): while there is nothing to forward, the last message is what is in the
file. And messages never go back (`Inv.sorted`).

Contents are counted as they are put into the file; a message is kept with its number.
-/

namespace EdgeSensor.Lib

structure MtimeGate (α : Type) where
  /-- What the file was replaced with, and its modification times, oldest first. -/
  versions : List (α × Rat) := []
  /-- The time remembered. -/
  last : Rat := 0
  /-- The time of an attempt that has looked and is about to read. -/
  seen : Option Rat := none
  /-- What arrived, with its number. -/
  sent : List (Nat × α) := []

inductive MtimeGateStep (α : Type) where
  | replace (content : α) (mtime : Rat)
  | look
  /-- Read and send. A message that is not confirmed may arrive all the same. -/
  | send (confirmed arrives : Bool)
  /-- The attempt ends with an exception. -/
  | fail
  /-- The forwarder's process is started again. -/
  | restart

namespace MtimeGate

variable {α : Type}

/-- What is in the file. -/
def file (g : MtimeGate α) : Option (α × Rat) := g.versions.getLast?

/-- There is nothing to forward. -/
def Closed (g : MtimeGate α) : Prop := ∀ version ∈ g.file, version.2 ≤ g.last

def look (g : MtimeGate α) : MtimeGate α :=
  match g.seen, g.file with
  | none, some version => if version.2 ≤ g.last then g else { g with seen := some version.2 }
  | _, _ => g

def send (g : MtimeGate α) (confirmed arrives : Bool) : MtimeGate α :=
  match g.seen, g.file with
  | some mtime, some version =>
    { g with
      sent := if confirmed || arrives then g.sent ++ [(g.versions.length - 1, version.1)] else g.sent
      last := if confirmed then mtime else g.last
      seen := none }
  | _, _ => g

def step (g : MtimeGate α) : MtimeGateStep α → MtimeGate α
  | .replace content mtime => { g with versions := g.versions ++ [(content, mtime)] }
  | .look => g.look
  | .send confirmed arrives => g.send confirmed arrives
  | .fail => { g with seen := none }
  | .restart => { g with last := 0, seen := none }

/-- Modification times are after the epoch, and get later. -/
def Later (g : MtimeGate α) : MtimeGateStep α → Prop
  | .replace _ mtime => 0 < mtime ∧ ∀ version ∈ g.versions, version.2 < mtime
  | _ => True

instance (g : MtimeGate α) : (x : MtimeGateStep α) → Decidable (g.Later x)
  | .replace _ mtime =>
    inferInstanceAs (Decidable (0 < mtime ∧ ∀ version ∈ g.versions, version.2 < mtime))
  | .look => .isTrue trivial
  | .send _ _ => .isTrue trivial
  | .fail => .isTrue trivial
  | .restart => .isTrue trivial

/-- The time is that of version `n`. -/
def TimeOf (g : MtimeGate α) (n : Nat) (mtime : Rat) : Prop :=
  ∃ version, g.versions[n]? = some version ∧ version.2 = mtime

/-- What every step preserves. -/
structure Inv (g : MtimeGate α) : Prop where
  positive : ∀ version ∈ g.versions, 0 < version.2
  increasing : g.versions.Pairwise fun a b => a.2 < b.2
  /-- A message is a content the file had. -/
  genuine : ∀ message ∈ g.sent, ∃ mtime, g.versions[message.1]? = some (message.2, mtime)
  sorted : g.sent.Pairwise fun a b => a.1 ≤ b.1
  seen : ∀ mtime ∈ g.seen, ∃ n, g.TimeOf n mtime
  /-- The last message is no older than the time remembered. -/
  last : g.last = 0 ∨ ∃ n, g.TimeOf n g.last ∧ ∃ message, g.sent.getLast? = some message ∧ n ≤ message.1

variable {g : MtimeGate α}

theorem Inv.new : ({} : MtimeGate α).Inv :=
  ⟨fun _ h => absurd h List.not_mem_nil, .nil, fun _ h => absurd h List.not_mem_nil, .nil,
    fun _ h => (by cases h), .inl rfl⟩

theorem getElem?_of_append {l : List α} {x : α} {n : Nat} {a : α} (h : l[n]? = some a) :
    (l ++ [x])[n]? = some a := by
  rw [List.getElem?_append_left (List.getElem?_eq_some_iff.mp h).1]
  exact h

theorem TimeOf.replace {n : Nat} {mtime : Rat} (h : g.TimeOf n mtime) (content : α) (t : Rat) :
    (g.step (.replace content t)).TimeOf n mtime := by
  obtain ⟨version, hversion, ht⟩ := h
  exact ⟨version, getElem?_of_append hversion, ht⟩

theorem Inv.replace (h : g.Inv) {content : α} {mtime : Rat} (hlater : g.Later (.replace content mtime)) :
    (g.step (.replace content mtime)).Inv := by
  obtain ⟨hpos, hlater⟩ := hlater
  refine ⟨fun version hversion => ?_, ?_, fun message hmessage => ?_, h.sorted, fun t ht => ?_, ?_⟩
  · rcases List.mem_append.mp hversion with hold | hnew
    · exact h.positive version hold
    · rw [List.mem_singleton.mp hnew]
      exact hpos
  · refine List.pairwise_append.mpr ⟨h.increasing, List.pairwise_singleton _ _, ?_⟩
    intro version hversion new hnew
    rw [List.mem_singleton.mp hnew]
    exact hlater version hversion
  · obtain ⟨t, ht⟩ := h.genuine message hmessage
    exact ⟨t, getElem?_of_append ht⟩
  · obtain ⟨n, hn⟩ := h.seen t ht
    exact ⟨n, hn.replace content mtime⟩
  · rcases h.last with hzero | ⟨n, hn, hmessage⟩
    · exact .inl hzero
    · exact .inr ⟨n, hn.replace content mtime, hmessage⟩

theorem file_eq {version : α × Rat} (h : g.file = some version) :
    g.versions[g.versions.length - 1]? = some version := by
  rw [← List.getLast?_eq_getElem?]
  exact h

theorem Inv.look (h : g.Inv) : g.look.Inv := by
  unfold MtimeGate.look
  split
  next version _ hfile =>
    split
    next => exact h
    next =>
      refine ⟨h.positive, h.increasing, h.genuine, h.sorted, fun t ht => ?_, h.last⟩
      cases ht
      exact ⟨_, version, file_eq hfile, rfl⟩
  next => exact h

/-- What is in the file is newer than any message. -/
theorem Inv.le_length (h : g.Inv) {message : Nat × α} (hmessage : message ∈ g.sent) :
    message.1 ≤ g.versions.length - 1 := by
  obtain ⟨mtime, hmtime⟩ := h.genuine message hmessage
  have hlt := (List.getElem?_eq_some_iff.mp hmtime).1
  omega

theorem Inv.send (h : g.Inv) (confirmed arrives : Bool) : (g.send confirmed arrives).Inv := by
  unfold MtimeGate.send
  split
  next mtime version hseen hfile =>
    obtain ⟨n, hn⟩ := h.seen mtime hseen
    have hle : n ≤ g.versions.length - 1 := by
      obtain ⟨v, hv, -⟩ := hn
      have hlt := (List.getElem?_eq_some_iff.mp hv).1
      omega
    have hgenuine : ∀ message ∈ g.sent ++ [(g.versions.length - 1, version.1)],
        ∃ t, g.versions[message.1]? = some (message.2, t) := by
      intro message hmessage
      rcases List.mem_append.mp hmessage with hold | hnew
      · exact h.genuine message hold
      · rw [List.mem_singleton.mp hnew]
        exact ⟨version.2, file_eq hfile⟩
    have hsorted : (g.sent ++ [(g.versions.length - 1, version.1)]).Pairwise fun a b => a.1 ≤ b.1 := by
      refine List.pairwise_append.mpr ⟨h.sorted, List.pairwise_singleton _ _, ?_⟩
      intro message hmessage new hnew
      rw [List.mem_singleton.mp hnew]
      exact h.le_length hmessage
    have hlast : g.last = 0 ∨ ∃ n, g.TimeOf n g.last ∧ ∃ message,
        (g.sent ++ [(g.versions.length - 1, version.1)]).getLast? = some message ∧ n ≤ message.1 := by
      rcases h.last with hzero | ⟨k, hk, message, hmessage, hkm⟩
      · exact .inl hzero
      · refine .inr ⟨k, hk, _, List.getLast?_concat, ?_⟩
        exact Nat.le_trans hkm (h.le_length (List.mem_of_getLast? hmessage))
    cases confirmed with
    | true =>
      refine ⟨h.positive, h.increasing, hgenuine, hsorted, fun _ ht => (by cases ht), .inr ?_⟩
      exact ⟨n, hn, _, List.getLast?_concat, hle⟩
    | false =>
      cases arrives with
      | true => exact ⟨h.positive, h.increasing, hgenuine, hsorted, fun _ ht => (by cases ht), hlast⟩
      | false =>
        exact ⟨h.positive, h.increasing, h.genuine, h.sorted, fun _ ht => (by cases ht), h.last⟩
  next => exact h

/-- The step lemma. -/
theorem Inv.step (h : g.Inv) {x : MtimeGateStep α} (hlater : g.Later x) : (g.step x).Inv := by
  cases x with
  | replace content mtime => exact h.replace hlater
  | look => exact h.look
  | send confirmed arrives => exact h.send confirmed arrives
  | fail => exact ⟨h.positive, h.increasing, h.genuine, h.sorted, fun _ ht => (by cases ht), h.last⟩
  | restart =>
    exact ⟨h.positive, h.increasing, h.genuine, h.sorted, fun _ ht => (by cases ht), .inl rfl⟩

/-- Of two versions, the one with the later time is the later. -/
theorem Inv.le_of_time (h : g.Inv) {n k : Nat} {version version' : α × Rat}
    (hn : g.versions[n]? = some version) (hk : g.versions[k]? = some version')
    (hle : version.2 ≤ version'.2) : n ≤ k := by
  obtain ⟨hnlt, rfl⟩ := List.getElem?_eq_some_iff.mp hn
  obtain ⟨hklt, rfl⟩ := List.getElem?_eq_some_iff.mp hk
  by_contra hlt
  have hbefore := List.pairwise_iff_getElem.mp h.increasing k n hklt hnlt (by omega)
  exact absurd hle (not_le.mpr hbefore)

/-- **Nothing is lost.** While there is nothing to forward, the last message is what is in the
file. -/
theorem Inv.sent_current (h : g.Inv) (hclosed : g.Closed) {version : α × Rat}
    (hfile : g.file = some version) :
    g.sent.getLast? = some (g.versions.length - 1, version.1) := by
  have hle : version.2 ≤ g.last := hclosed version hfile
  have hpos := h.positive version (List.mem_of_getLast? hfile)
  rcases h.last with hzero | ⟨n, ⟨version', hn, htime⟩, message, hmessage, hnm⟩
  · rw [hzero] at hle
    exact absurd hpos (not_lt.mpr hle)
  · have hcur := h.le_of_time (file_eq hfile) hn (hle.trans htime.ge)
    have hmem := List.mem_of_getLast? hmessage
    have hlen := h.le_length hmem
    have heq : message.1 = g.versions.length - 1 := by omega
    obtain ⟨t, ht⟩ := h.genuine message hmem
    rw [heq, file_eq hfile] at ht
    cases ht
    rw [hmessage, ← heq]

theorem look_versions : g.look.versions = g.versions := by
  unfold MtimeGate.look
  split
  next =>
    split
    next => rfl
    next => rfl
  next => rfl

theorem send_versions (confirmed arrives : Bool) :
    (g.send confirmed arrives).versions = g.versions := by
  unfold MtimeGate.send
  split
  next => rfl
  next => rfl

/-- An attempt nothing comes between, confirmed, leaves nothing to forward. -/
theorem closed_of_attempt (hseen : g.seen = none) (arrives : Bool) :
    ((g.step .look).step (.send true arrives)).Closed := by
  intro version hversion
  have hfile : g.file = some version := by
    rw [← hversion]
    show g.versions.getLast? = (g.look.send true arrives).versions.getLast?
    rw [send_versions, look_versions]
  show version.2 ≤ (g.look.send true arrives).last
  unfold MtimeGate.look
  simp only [hseen, hfile]
  split
  next hle =>
    unfold MtimeGate.send
    simp only [hseen]
    exact hle
  next =>
    have hseen' : MtimeGate.file { g with seen := some version.2 } = some version := hfile
    unfold MtimeGate.send
    simp only [hseen']
    exact le_rfl

end MtimeGate

end EdgeSensor.Lib
