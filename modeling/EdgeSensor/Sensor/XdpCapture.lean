import Mathlib.Algebra.Group.Nat.Defs
import Mathlib.Data.List.Perm.Basic
import Mathlib.Data.List.Range

/-!
# AF_XDP capture (`native/xdp_capture.c`)

The frames of a UMEM go round: the fill ring offers them to the kernel, the kernel puts packets
into them and the frames on the RX ring, and `xdp_cap_recv` copies a packet out and puts its frame
back on the fill ring. Where no slot can be reserved the frame is dropped, and nobody has it any
more.

`Accounted held s` says that each frame is in one place: with the caller of `xdp_cap_recv` (`held`),
on one of the rings, or with the kernel. A move of the kernel keeps it (`kernelStep_accounted`), and
so does a call as long as the fill ring has a slot for every frame (`receive_accounted`): the frame
in hand is on no ring, so a slot is free for it. `populate_fq` needs all the slots at once, so a
session gets to that point exactly when there are that many (`conservesFrames_iff`).

Mirroring notes:
- What the system and the libraries answer is the parameter `XdpHost`.
- A ring is the entries that the producer has submitted and the consumer has not released.
- The kernel may move between any two accesses of `xdp_cap_recv` to a ring.
- In the aligned mode a chunk is known by any address in it.
-/

namespace EdgeSensor.Sensor

/-! ## The rings -/

/-- A descriptor on the RX ring. -/
structure XdpDesc where
  addr : Nat
  len : UInt32
  deriving DecidableEq

/-- A ring of so many slots. -/
structure XskRing (α : Type) where
  size : Nat
  entries : List α := []

namespace XskRing

variable {α : Type}

/-- `xsk_ring_prod__reserve`: all of the slots, or none. -/
def reserve (ring : XskRing α) (n : Nat) : Nat :=
  if ring.entries.length + n ≤ ring.size then n else 0

/-- `xsk_ring_prod__submit`, of reserved slots with these in them. -/
def submit (ring : XskRing α) (filled : List α) : XskRing α :=
  { ring with entries := ring.entries ++ filled }

/-- `xsk_ring_cons__peek` of one entry. -/
def peek (ring : XskRing α) : Option α := ring.entries.head?

/-- `xsk_ring_cons__release` of one entry. -/
def release (ring : XskRing α) : XskRing α := { ring with entries := ring.entries.tail }

end XskRing

/-- `xsk_umem__extract_addr` -/
def extractAddr (addr : Nat) : Nat := addr % 2 ^ 48

/-- `xsk_umem__extract_offset` -/
def extractOffset (addr : Nat) : Nat := addr / 2 ^ 48

/-! ## A session -/

/-- `struct xdp_cap_session`, with the frames that are in the kernel's hands. -/
structure XdpSession where
  frameSize : Nat
  numFrames : Nat
  fq : XskRing Nat
  rx : XskRing XdpDesc
  kernel : List Nat := []
  area : Nat → UInt8 := fun _ => 0
  userRxFrames : Nat := 0

namespace XdpSession

/-- The frame that an address is in. -/
def frameOf (sess : XdpSession) (addr : Nat) : Nat := addr / sess.frameSize

/-- `populate_fq`. -/
def populateFq (sess : XdpSession) : Option XdpSession :=
  if sess.fq.reserve sess.numFrames = sess.numFrames then
    some { sess with
      fq := sess.fq.submit ((List.range sess.numFrames).map fun i => i * sess.frameSize % 2 ^ 64) }
  else none

end XdpSession

/-! ## What the kernel does -/

/-- A move of the kernel: it takes the next frame of the fill ring, or puts a packet somewhere into
the `i`-th frame that it has, and that on the RX ring. -/
inductive KernelMove where
  | take
  | deliver (i offset : Nat) (packet : List UInt8)

namespace XdpSession

/-- The memory after a packet has been written at an address. -/
def written (area : Nat → UInt8) (addr : Nat) (packet : List UInt8) (a : Nat) : UInt8 :=
  if addr ≤ a then (packet[a - addr]?).getD (area a) else area a

def kernelStep (sess : XdpSession) : KernelMove → XdpSession
  | .take =>
    match sess.fq.peek with
    | none => sess
    | some addr => { sess with fq := sess.fq.release, kernel := sess.kernel ++ [sess.frameOf addr] }
  | .deliver i offset packet =>
    match sess.kernel[i]? with
    | none => sess
    | some frame =>
      if offset < sess.frameSize ∧ offset + packet.length ≤ sess.frameSize
          ∧ sess.rx.reserve 1 = 1 then
        let addr := frame * sess.frameSize + offset
        { sess with
          kernel := sess.kernel.eraseIdx i
          area := written sess.area addr packet
          rx := sess.rx.submit [⟨addr, .ofNat packet.length⟩] }
      else sess

def kernelSteps (sess : XdpSession) (moves : List KernelMove) : XdpSession :=
  moves.foldl kernelStep sess

end XdpSession

/-! ## Receiving -/

/-- A call of `xdp_cap_recv`: its arguments, what `poll` returns, and what the kernel does meanwhile. -/
structure RecvCall where
  bufNull : Bool := false
  bufSize : Int32
  pollRet : Int32 := 1
  duringPoll : List KernelMove := []
  duringCopy : List KernelMove := []
  beforeRefill : List KernelMove := []

/-- What `xdp_cap_recv` returns, and what is in the buffer then. -/
structure Received where
  ret : Int32
  copied : List UInt8 := []
  deriving DecidableEq

namespace XdpSession

/-- The frame goes back to the fill ring if there is a slot. -/
def refill (sess : XdpSession) (addr : Nat) : XdpSession :=
  if sess.fq.reserve 1 = 1 then { sess with fq := sess.fq.submit [addr] } else sess

/-- `xdp_cap_recv` once it has a descriptor. -/
def receive (sess : XdpSession) (desc : XdpDesc) (call : RecvCall) : XdpSession × Received :=
  let orig := extractAddr desc.addr
  let offset := extractOffset desc.addr
  let len := if call.bufSize < desc.len.toInt32 then call.bufSize.toUInt32 else desc.len
  let copied := (List.range len.toNat).map fun i => sess.area (orig + offset + i)
  let sess := sess.kernelSteps call.duringCopy
  let sess := { sess with rx := sess.rx.release }
  let sess := sess.kernelSteps call.beforeRefill
  let sess := sess.refill orig
  ({ sess with userRxFrames := (sess.userRxFrames + 1) % 2 ^ 64 }, ⟨len.toInt32, copied⟩)

/-- `xdp_cap_recv`. -/
def xdpCapRecv (sess : XdpSession) (call : RecvCall) : XdpSession × Received :=
  if call.bufNull || call.bufSize ≤ 0 then (sess, ⟨-1, []⟩)
  else
    match sess.rx.peek with
    | some desc => sess.receive desc call
    | none =>
      let sess := sess.kernelSteps call.duringPoll
      if call.pollRet ≤ 0 then (sess, ⟨0, []⟩)
      else
        match sess.rx.peek with
        | none => (sess, ⟨0, []⟩)
        | some desc => sess.receive desc call

/-- What happens to a session: the kernel moves, or there is a call. -/
inductive Event where
  | kernel (move : KernelMove)
  | recv (call : RecvCall)

def step (sess : XdpSession) : Event → XdpSession
  | .kernel move => sess.kernelStep move
  | .recv call => (sess.xdpCapRecv call).1

def run (sess : XdpSession) (events : List Event) : XdpSession := events.foldl step sess

end XdpSession

/-! ## Opening a session -/

/-- What the system and the libraries answer. A chunk of a UMEM is no larger than a page. -/
structure XdpHost where
  /-- `XSK_RING_PROD__DEFAULT_NUM_DESCS` -/
  prodDescs : Nat := 2048
  /-- `XSK_RING_CONS__DEFAULT_NUM_DESCS` -/
  consDescs : Nat := 2048
  calloc : Bool := true
  ifNameToIndex : String → Nat := fun _ => 1
  mmap : (size : Nat) → Bool := fun _ => true
  objectOpen : (path : String) → Bool := fun _ => true
  objectLoad : Int := 0
  hasXsksMap : Bool := true
  hasRedirectProg : Bool := true
  attach : (ifindex : Nat) → (flags : UInt32) → Int := fun _ _ => 0
  umemCreate : (frameSize numFrames : Nat) → Int := fun frameSize _ =>
    if frameSize = 2048 ∨ frameSize = 4096 then 0 else -22
  socketCreate : (queueId : UInt32) → Int := fun _ => 0
  updateXskmap : Int := 0
  chunk_le : ∀ frameSize numFrames, umemCreate frameSize numFrames = 0 → frameSize ≤ 4096 := by
    intro frameSize numFrames h
    split at h
    · omega
    · cases h

/-- The arguments of `xdp_cap_open`. -/
structure OpenArgs where
  ifname : Option String
  queueId : Int32 := 0
  bpfObjPath : Option String
  xdpMode : Int32 := 0
  frameSize : Int32 := 0
  numFrames : Int32 := 0

/-- Why there is no session; `logged` is what `set_last_error` has been told. -/
structure OpenFailure where
  logged : Option (String × Int) := none
  deriving DecidableEq

def defaultFrameSize : Nat := 2048

def defaultNumFrames : Nat := 4096

/-- A size, or what stands for none. -/
def orDefault (n : Int32) (default : Nat) : Nat := if n ≤ 0 then default else n.toInt.toNat

namespace OpenArgs

/-- `xdp_cap_open` up to `xsk_umem__create`. -/
def createUmem (args : OpenArgs) (host : XdpHost) : Except OpenFailure XdpSession :=
  match args.ifname, args.bpfObjPath with
  | some ifname, some bpfObjPath =>
    let frameSize := orDefault args.frameSize defaultFrameSize
    let numFrames := orDefault args.numFrames defaultNumFrames
    let flags : UInt32 := if args.xdpMode ≠ 0 then 3 else 1
    let ifindex := host.ifNameToIndex ifname
    if !host.calloc then .error {}
    else if ifindex = 0 then .error {}
    else if !host.mmap (frameSize * numFrames) then .error {}
    else if !host.objectOpen bpfObjPath then .error {}
    else if host.objectLoad ≠ 0 then .error ⟨some ("bpf_object__load", host.objectLoad)⟩
    else if !host.hasXsksMap then .error ⟨some ("xsks_map", -2)⟩
    else if !host.hasRedirectProg then .error ⟨some ("xdp_redirect_prog", -2)⟩
    else if host.attach ifindex flags ≠ 0 then
      .error ⟨some ("bpf_xdp_attach", host.attach ifindex flags)⟩
    else if host.umemCreate frameSize numFrames ≠ 0 then
      .error ⟨some ("xsk_umem__create", host.umemCreate frameSize numFrames)⟩
    else .ok { frameSize, numFrames, fq := { size := host.prodDescs }, rx := { size := host.consDescs } }
  | _, _ => .error {}

/-- `xdp_cap_open`. -/
def xdpCapOpen (args : OpenArgs) (host : XdpHost) : Except OpenFailure XdpSession :=
  match args.createUmem host with
  | .error e => .error e
  | .ok sess =>
    let socket := host.socketCreate args.queueId.toUInt32
    if socket ≠ 0 then .error ⟨some ("xsk_socket__create", socket)⟩
    else if host.updateXskmap ≠ 0 then
      .error ⟨some ("xsk_socket__update_xskmap", host.updateXskmap)⟩
    else
      match sess.populateFq with
      | none => .error ⟨some ("populate_fq", -12)⟩
      | some sess => .ok sess

end OpenArgs

/-! ## Where the frames are -/

namespace XdpSession

/-- The frames on the fill ring, with the kernel, and on the RX ring. -/
def whereabouts (sess : XdpSession) : List Nat :=
  sess.fq.entries.map sess.frameOf ++ sess.kernel ++ sess.rx.entries.map fun d => sess.frameOf d.addr

/-- Each frame is in one place. -/
def Accounted (sess : XdpSession) : Prop := sess.whereabouts.Perm (List.range sess.numFrames)

/-- What the moves of the kernel leave of a session. -/
structure Moved (sess after : XdpSession) : Prop where
  frameSize : after.frameSize = sess.frameSize
  numFrames : after.numFrames = sess.numFrames
  slots : after.fq.size = sess.fq.size
  frames : after.whereabouts.Perm sess.whereabouts
  rx : sess.rx.entries <+: after.rx.entries

theorem Moved.refl (sess : XdpSession) : Moved sess sess :=
  ⟨rfl, rfl, rfl, .refl _, List.prefix_rfl⟩

theorem Moved.trans {a b c : XdpSession} (h : Moved a b) (h' : Moved b c) : Moved a c where
  frameSize := h'.frameSize.trans h.frameSize
  numFrames := h'.numFrames.trans h.numFrames
  slots := h'.slots.trans h.slots
  frames := h'.frames.trans h.frames
  rx := h.rx.trans h'.rx

theorem frameOf_add {sess : XdpSession} {frame offset : Nat} (h : offset < sess.frameSize) :
    sess.frameOf (frame * sess.frameSize + offset) = frame := by
  have hpos : 0 < sess.frameSize := by omega
  rw [frameOf, Nat.add_comm, Nat.add_mul_div_right _ _ hpos, Nat.div_eq_of_lt h, Nat.zero_add]

/-- A frame goes from one place to the next. -/
theorem kernelStep_moved (sess : XdpSession) (move : KernelMove) :
    Moved sess (sess.kernelStep move) := by
  cases move with
  | take =>
    rw [kernelStep]
    split
    next => exact .refl sess
    next addr hpeek =>
      obtain ⟨entries, hentries⟩ := List.head?_eq_some_iff.mp hpeek
      refine ⟨rfl, rfl, rfl, ?_, List.prefix_rfl⟩
      rw [whereabouts, whereabouts, XskRing.release, hentries, List.tail_cons, List.map_cons]
      refine .append_right _ ?_
      rw [← List.append_assoc]
      exact List.perm_append_singleton _ _
  | deliver i offset packet =>
    rw [kernelStep]
    split
    next => exact .refl sess
    next frame hframe =>
      split
      next hfits =>
        refine ⟨rfl, rfl, rfl, ?_, List.prefix_append _ _⟩
        obtain ⟨hi, hget⟩ := List.getElem?_eq_some_iff.mp hframe
        have herase : (frame :: sess.kernel.eraseIdx i).Perm sess.kernel := by
          rw [← hget]
          exact List.getElem_cons_eraseIdx_perm hi
        show (sess.fq.entries.map sess.frameOf ++ sess.kernel.eraseIdx i
          ++ (sess.rx.entries ++ [_]).map fun d : XdpDesc => sess.frameOf d.addr).Perm sess.whereabouts
        rw [List.map_append, List.map_singleton, frameOf_add hfits.1, whereabouts]
        refine .trans ?_ (.append_right _ (.append_left _ herase))
        rw [← List.append_assoc, List.append_assoc _ (frame :: _), List.cons_append]
        refine .trans (List.perm_append_singleton _ _) ?_
        rw [List.append_assoc]
        exact List.perm_middle.symm
      next => exact .refl sess

theorem kernelSteps_moved (moves : List KernelMove) (sess : XdpSession) :
    Moved sess (sess.kernelSteps moves) := by
  induction moves generalizing sess with
  | nil => exact .refl sess
  | cons move moves ih => exact (kernelStep_moved sess move).trans (ih _)

/-! ## One call -/

/-- Each frame is in one place, there is a slot for each, and the memory is no larger than what
`xsk_umem__extract_addr` can tell apart. -/
structure Sound (sess : XdpSession) : Prop where
  accounted : sess.Accounted
  slots : sess.numFrames ≤ sess.fq.size
  chunk : 0 < sess.frameSize
  memory : sess.numFrames * sess.frameSize ≤ 2 ^ 48

theorem Moved.sound {sess after : XdpSession} (h : Moved sess after) (hsound : Sound sess) :
    Sound after where
  accounted := by
    rw [Accounted, h.numFrames]
    exact h.frames.trans hsound.accounted
  slots := by
    rw [h.numFrames, h.slots]
    exact hsound.slots
  chunk := by
    rw [h.frameSize]
    exact hsound.chunk
  memory := by
    rw [h.numFrames, h.frameSize]
    exact hsound.memory

/-- An address of a frame is extracted as it is. -/
theorem Sound.extractAddr_eq {sess : XdpSession} (h : Sound sess) {desc : XdpDesc}
    (hdesc : desc ∈ sess.rx.entries) : extractAddr desc.addr = desc.addr := by
  have hmem : sess.frameOf desc.addr ∈ sess.whereabouts :=
    List.mem_append_right _ (List.mem_map_of_mem hdesc)
  have hlt : desc.addr / sess.frameSize < sess.numFrames := by
    rw [← List.mem_range]
    exact h.accounted.mem_iff.mp hmem
  have hbound := (Nat.div_lt_iff_lt_mul h.chunk).mp hlt
  exact Nat.mod_eq_of_lt (Nat.lt_of_lt_of_le hbound h.memory)

/-- A frame in hand finds its slot, since all the others together leave one free. -/
theorem refill_frames {sess : XdpSession} {addr : Nat} (hslots : sess.numFrames ≤ sess.fq.size)
    (h : (sess.frameOf addr :: sess.whereabouts).Perm (List.range sess.numFrames)) :
    (sess.refill addr).Accounted := by
  have hlen : sess.fq.entries.length + 1 ≤ sess.fq.size := by
    have hall := h.length_eq
    rw [List.length_range, List.length_cons, whereabouts, List.length_append, List.length_append,
      List.length_map] at hall
    omega
  have hroom : sess.fq.reserve 1 = 1 := if_pos hlen
  rw [refill, if_pos hroom]
  show ((sess.fq.entries ++ [addr]).map sess.frameOf ++ sess.kernel ++ _).Perm _
  refine .trans ?_ h
  rw [List.map_append, List.map_singleton, whereabouts, ← List.cons_append, ← List.cons_append]
  exact .append_right _ (.append_right _ (List.perm_append_singleton _ _))

theorem refill_shape (sess : XdpSession) (addr : Nat) :
    (sess.refill addr).numFrames = sess.numFrames ∧ (sess.refill addr).frameSize = sess.frameSize
      ∧ (sess.refill addr).fq.size = sess.fq.size := by
  unfold refill
  split
  next => exact ⟨rfl, rfl, rfl⟩
  next => exact ⟨rfl, rfl, rfl⟩

/-- A packet is received, and its frame goes back. -/
theorem receive_sound {sess : XdpSession} (h : Sound sess) {desc : XdpDesc}
    (hpeek : sess.rx.peek = some desc) (call : RecvCall) : Sound (sess.receive desc call).1 := by
  obtain ⟨behind, hentries⟩ := List.head?_eq_some_iff.mp hpeek
  have horig : extractAddr desc.addr = desc.addr :=
    h.extractAddr_eq (hentries ▸ List.mem_cons_self)
  have hcopy := kernelSteps_moved call.duringCopy sess
  have hcopied := hcopy.sound h
  obtain ⟨more, hmore⟩ := hcopy.rx
  rw [hentries] at hmore
  -- the frame is in hand from here on
  let released : XdpSession :=
    { sess.kernelSteps call.duringCopy with rx := (sess.kernelSteps call.duringCopy).rx.release }
  have hrest : released.rx.entries = behind ++ more := congrArg List.tail hmore.symm
  have hreleased : (released.frameOf desc.addr :: released.whereabouts).Perm
      (List.range released.numFrames) := by
    refine .trans ?_ hcopied.accounted
    rw [whereabouts, whereabouts, hrest, ← hmore]
    exact List.perm_middle.symm
  have hmoved := kernelSteps_moved call.beforeRefill released
  have hhand : ((released.kernelSteps call.beforeRefill).frameOf desc.addr
      :: (released.kernelSteps call.beforeRefill).whereabouts).Perm
      (List.range (released.kernelSteps call.beforeRefill).numFrames) := by
    rw [frameOf, hmoved.frameSize, hmoved.numFrames]
    exact (hmoved.frames.cons _).trans hreleased
  have hslots : (released.kernelSteps call.beforeRefill).numFrames
      ≤ (released.kernelSteps call.beforeRefill).fq.size := by
    rw [hmoved.numFrames, hmoved.slots]
    exact hcopied.slots
  obtain ⟨hnum, hsize, hfq⟩ := refill_shape (released.kernelSteps call.beforeRefill) desc.addr
  have hback := refill_frames hslots hhand
  rw [receive, horig]
  refine ⟨hback, ?_, ?_, ?_⟩
  · show ((released.kernelSteps call.beforeRefill).refill desc.addr).numFrames ≤ _
    rw [hnum]
    exact hslots.trans_eq hfq.symm
  · show 0 < ((released.kernelSteps call.beforeRefill).refill desc.addr).frameSize
    rw [hsize, hmoved.frameSize]
    exact hcopied.chunk
  · show ((released.kernelSteps call.beforeRefill).refill desc.addr).numFrames
      * ((released.kernelSteps call.beforeRefill).refill desc.addr).frameSize ≤ _
    rw [hnum, hsize, hmoved.frameSize, hmoved.numFrames]
    exact hcopied.memory

theorem xdpCapRecv_sound {sess : XdpSession} (h : Sound sess) (call : RecvCall) :
    Sound (sess.xdpCapRecv call).1 := by
  have hpolled := (kernelSteps_moved call.duringPoll sess).sound h
  unfold xdpCapRecv
  split
  next => exact h
  next =>
    split
    next desc hpeek => exact receive_sound h hpeek call
    next =>
      split
      next => exact hpolled
      next =>
        dsimp only
        split
        next => exact hpolled
        next desc hpeek => exact receive_sound hpolled hpeek call

/-! ## Runs -/

theorem step_sound {sess : XdpSession} (h : Sound sess) (event : Event) :
    Sound (sess.step event) := by
  cases event with
  | kernel move => exact (kernelStep_moved sess move).sound h
  | recv call => exact xdpCapRecv_sound h call

theorem run_sound {sess : XdpSession} (h : Sound sess) (events : List Event) :
    Sound (sess.run events) := by
  induction events generalizing sess with
  | nil => exact h
  | cons event events ih => exact ih (step_sound h event)

/-- `populate_fq` succeeds and puts each frame on the fill ring once, and from then on each frame
is in one place, whatever the kernel and the calls do. -/
def ConservesFrames (sess : XdpSession) : Prop :=
  ∃ opened, sess.populateFq = some opened
    ∧ opened.fq.entries = (List.range sess.numFrames).map (fun i => i * sess.frameSize)
    ∧ ∀ events, (opened.run events).Accounted

/-- A session whose UMEM has just been created. -/
structure Fresh (sess : XdpSession) : Prop where
  fq : sess.fq.entries = []
  rx : sess.rx.entries = []
  kernel : sess.kernel = []
  some_frame : 0 < sess.numFrames
  int_frames : sess.numFrames < 2 ^ 31
  chunk : 0 < sess.frameSize
  page : sess.frameSize ≤ 4096

theorem Fresh.memory {sess : XdpSession} (h : Fresh sess) :
    sess.numFrames * sess.frameSize ≤ 2 ^ 43 :=
  calc sess.numFrames * sess.frameSize ≤ 2 ^ 31 * 4096 :=
        Nat.mul_le_mul (Nat.le_of_lt h.int_frames) h.page
    _ = 2 ^ 43 := by decide

/-- All the slots are reserved, or none. -/
theorem Fresh.reserve_iff {sess : XdpSession} (h : Fresh sess) :
    sess.fq.reserve sess.numFrames = sess.numFrames ↔ sess.numFrames ≤ sess.fq.size := by
  have hpos := h.some_frame
  rw [XskRing.reserve, h.fq, List.length_nil, Nat.zero_add]
  constructor
  · intro heq
    by_contra hle
    rw [if_neg hle] at heq
    omega
  · intro hle
    exact if_pos hle

/-- `populate_fq` writes the address of each frame. -/
theorem Fresh.populateFq_eq {sess : XdpSession} (h : Fresh sess)
    (hslots : sess.numFrames ≤ sess.fq.size) :
    sess.populateFq = some { sess with
      fq := sess.fq.submit ((List.range sess.numFrames).map fun i => i * sess.frameSize) } := by
  have haddr : (List.range sess.numFrames).map (fun i => i * sess.frameSize % 2 ^ 64)
      = (List.range sess.numFrames).map fun i => i * sess.frameSize := by
    refine List.map_congr_left fun i hi => Nat.mod_eq_of_lt ?_
    have hle := Nat.mul_le_mul_right sess.frameSize (Nat.le_of_lt (List.mem_range.mp hi))
    have hmemory := h.memory
    omega
  rw [populateFq, if_pos (h.reserve_iff.mpr hslots), haddr]

theorem Fresh.populated_sound {sess : XdpSession} (h : Fresh sess)
    (hslots : sess.numFrames ≤ sess.fq.size) :
    Sound { sess with
      fq := sess.fq.submit ((List.range sess.numFrames).map fun i => i * sess.frameSize) } where
  accounted := by
    have hframes : ((List.range sess.numFrames).map fun i => i * sess.frameSize).map sess.frameOf
        = List.range sess.numFrames := by
      rw [List.map_map]
      refine (List.map_congr_left fun i _ => ?_).trans (List.map_id _)
      exact Nat.mul_div_cancel i h.chunk
    show ((sess.fq.entries ++ _).map sess.frameOf ++ sess.kernel
      ++ sess.rx.entries.map fun d => sess.frameOf d.addr).Perm _
    rw [h.fq, h.kernel, h.rx, List.nil_append, List.append_nil, List.map_nil, List.append_nil,
      hframes]
  slots := hslots
  chunk := h.chunk
  memory := h.memory.trans (by decide)

theorem Fresh.conservesFrames_iff {sess : XdpSession} (h : Fresh sess) :
    sess.ConservesFrames ↔ sess.numFrames ≤ sess.fq.size := by
  constructor
  · rintro ⟨opened, hopened, -⟩
    unfold populateFq at hopened
    split at hopened
    next hall => exact h.reserve_iff.mp hall
    next => cases hopened
  · intro hslots
    refine ⟨_, h.populateFq_eq hslots, ?_, fun events => ?_⟩
    · show sess.fq.entries ++ _ = _
      rw [h.fq, List.nil_append]
    · exact (run_sound (h.populated_sound hslots) events).accounted

end XdpSession

/-! ## Opened sessions -/

theorem orDefault_pos {n : Int32} {default : Nat} (h : 0 < default) : 0 < orDefault n default := by
  unfold orDefault
  split
  next => exact h
  next hn =>
    rw [Int32.le_iff_toInt_le] at hn
    have hpos : 0 < n.toInt := by simpa using hn
    omega

theorem orDefault_lt {n : Int32} {default : Nat} (h : default < 2 ^ 31) :
    orDefault n default < 2 ^ 31 := by
  unfold orDefault
  split
  next => exact h
  next =>
    have hlt := n.toInt_lt
    omega

namespace OpenArgs

open XdpSession

/-- Past a check, its condition did not hold. -/
theorem of_guard {c : Prop} [Decidable c] {e : OpenFailure} {x : Except OpenFailure XdpSession}
    {sess : XdpSession} (h : (if c then .error e else x) = .ok sess) : ¬ c ∧ x = .ok sess := by
  split at h
  next => cases h
  next hc => exact ⟨hc, h⟩

/-- What a session is like when its UMEM has been created. -/
theorem createUmem_fresh {args : OpenArgs} {host : XdpHost} {sess : XdpSession}
    (h : args.createUmem host = .ok sess) :
    Fresh sess ∧ sess.numFrames = orDefault args.numFrames defaultNumFrames
      ∧ sess.fq.size = host.prodDescs := by
  unfold createUmem at h
  split at h
  next =>
    obtain ⟨-, h⟩ := of_guard h
    obtain ⟨-, h⟩ := of_guard h
    obtain ⟨-, h⟩ := of_guard h
    obtain ⟨-, h⟩ := of_guard h
    obtain ⟨-, h⟩ := of_guard h
    obtain ⟨-, h⟩ := of_guard h
    obtain ⟨-, h⟩ := of_guard h
    obtain ⟨-, h⟩ := of_guard h
    obtain ⟨hcreated, h⟩ := of_guard h
    cases h
    refine ⟨⟨rfl, rfl, rfl, orDefault_pos (by decide), orDefault_lt (by decide),
      orDefault_pos (by decide), ?_⟩, rfl, rfl⟩
    exact host.chunk_le _ _ (not_not.mp hcreated)
  next => cases h

/-- **Conservation.** Past the creation of the UMEM each frame is put on the fill ring and is in
one place from then on, if and only if the fill ring has a slot for each frame. -/
theorem conservesFrames_iff_of_createUmem (args : OpenArgs) (host : XdpHost) (sess : XdpSession)
    (h : args.createUmem host = .ok sess) :
    sess.ConservesFrames ↔ orDefault args.numFrames defaultNumFrames ≤ host.prodDescs := by
  obtain ⟨hfresh, hnum, hsize⟩ := createUmem_fresh h
  rw [hfresh.conservesFrames_iff, hnum, hsize]

/-- As many frames as the fill ring of libxdp has slots. -/
theorem conservesFrames_iff_of_createUmem_full :
    ∃ sess, createUmem { ifname := some "eth0", bpfObjPath := some "xdp.o", numFrames := 2048 } {}
      = .ok sess ∧ sess.ConservesFrames := by
  refine ⟨_, rfl, (conservesFrames_iff_of_createUmem
    { ifname := some "eth0", bpfObjPath := some "xdp.o", numFrames := 2048 } {} _ rfl).mpr ?_⟩
  decide

/-- The defaults of `xdp_cap_open` ask for twice the slots that there are: no session is opened. -/
theorem default_numFrames_not_conserved :
    ¬ ∀ (args : OpenArgs) (host : XdpHost) (sess : XdpSession),
      args.createUmem host = .ok sess → sess.ConservesFrames := by
  intro hclaim
  obtain ⟨opened, hopened, -⟩ := hclaim { ifname := some "eth0", bpfObjPath := some "xdp.o" } {} _ rfl
  cases hopened

/-- What `xdp_cap_open` says then. -/
example : xdpCapOpen { ifname := some "eth0", bpfObjPath := some "xdp.o" } {}
    = .error ⟨some ("populate_fq", -12)⟩ := rfl

end OpenArgs

end EdgeSensor.Sensor
