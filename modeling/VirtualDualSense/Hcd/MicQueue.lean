import VirtualDualSense.Hcd.Sections
import VirtualDualSense.Lib.Packets
import VirtualDualSense.Lib.Runs

/-!
# The microphone queue of the driver

The driver queues microphone audio in packets, counts packets and bytes beside the
list, and copies the bytes into isochronous URBs. The queue with its counters
refines a packet queue that is read as a stream of bytes.
-/

namespace VirtualDualSense.Hcd.MicQueue

open Lib.Runs Lib.Blocks Lib.Ledgers Lib.Packets Lib.Buffers Protocol.Frames UsbCore Sections

/-- The bytes of a packet that are still to be read. -/
def unread (packet : AudioPacket) : List UInt8 := packet.payload.drop packet.offset

/-- The bytes of all packets, in order. -/
def contents (packets : List AudioPacket) : List UInt8 := (packets.map unread).flatten

section Exact

/-- The loop that makes room, without a value when a counter would go below zero. -/
def dropOldestExact (length : Nat) :
    List AudioPacket → Nat → Nat → Option (List AudioPacket × Nat × Nat)
  | [], count, queued => some ([], count, queued)
  | oldest :: rest, count, queued =>
      if queued + length > vdsAudioInQueueMaxBytes then
        if 1 ≤ count ∧ oldest.payload.length - oldest.offset ≤ queued then
          dropOldestExact length rest (count - 1)
            (queued - (oldest.payload.length - oldest.offset))
        else none
      else some (oldest :: rest, count, queued)

/-- The loop that copies, without a value when a counter would go below zero. -/
def fillAudioInExact :
    List AudioPacket → Nat → Nat → Nat → Option (List UInt8 × List AudioPacket × Nat × Nat)
  | [], count, queued, length => some (List.replicate length 0, [], count, queued)
  | packet :: rest, count, queued, length =>
      if length = 0 then some ([], packet :: rest, count, queued)
      else
        let copyLen := min length (packet.payload.length - packet.offset)
        let data := (packet.payload.drop packet.offset).take copyLen
        if copyLen ≤ queued then
          if packet.offset + copyLen = packet.payload.length then
            if 1 ≤ count then
              (fillAudioInExact rest (count - 1) (queued - copyLen) (length - copyLen)).map
                fun (more, rest, count, queued) => (data ++ more, rest, count, queued)
            else none
          else
            some (data, { packet with offset := packet.offset + copyLen } :: rest, count,
              queued - copyLen)
        else none

end Exact

/-- The counters beside a list of packets are right, and no packet is used up. -/
structure Counted (packets : List AudioPacket) (count queued : Nat) : Prop where
  count : count = packets.length
  queued : queued = (contents packets).length
  offset : ∀ packet ∈ packets, packet.offset < packet.payload.length

section Counted

variable {packet : AudioPacket} {packets rest : List AudioPacket} {count queued length : Nat}

theorem contents_cons : contents (packet :: rest) = unread packet ++ contents rest := rfl

theorem length_unread : (unread packet).length = packet.payload.length - packet.offset :=
  List.length_drop

theorem length_contents : (contents packets).length =
    (packets.map fun packet => packet.payload.length - packet.offset).sum := by
  rw [contents, List.length_flatten, List.map_map]
  congr 1
  apply List.map_congr_left
  intro packet _
  exact length_unread

theorem Counted.nil : Counted [] 0 0 := ⟨rfl, rfl, by simp⟩

theorem Counted.tail (c : Counted (packet :: rest) count queued) :
    Counted rest (count - 1) (queued - (packet.payload.length - packet.offset)) where
  count := by
    rw [c.count, List.length_cons]
    rfl
  queued := by
    rw [c.queued, contents_cons, List.length_append, length_unread]
    omega
  offset := fun packet hpacket => c.offset packet (List.mem_cons_of_mem _ hpacket)

theorem Counted.available_le (c : Counted (packet :: rest) count queued) :
    packet.payload.length - packet.offset ≤ queued := by
  rw [c.queued, contents_cons, List.length_append, length_unread]
  omega

theorem Counted.one_le (c : Counted (packet :: rest) count queued) : 1 ≤ count := by
  rw [c.count, List.length_cons]
  omega

/-- The code makes room as the packet queue does, and no counter saturates. -/
theorem dropOldest_spec (c : Counted packets count queued) (length : Nat) :
    Counted (dropOldest length packets count queued).1
      (dropOldest length packets count queued).2.1
      (dropOldest length packets count queued).2.2 ∧
    (dropOldest length packets count queued).1.map unread =
      (makeRoom vdsAudioInQueueMaxBytes length (packets.map unread)).2 ∧
    dropOldestExact length packets count queued =
      some (dropOldest length packets count queued) := by
  induction packets generalizing count queued with
  | nil => exact ⟨c, rfl, rfl⟩
  | cons oldest rest ih =>
      have hqueued : queued = ((oldest :: rest).map unread).flatten.length := c.queued
      rw [dropOldest, dropOldestExact, List.map_cons, makeRoom, ← List.map_cons, ← hqueued]
      by_cases hfull : queued + length > vdsAudioInQueueMaxBytes
      · rw [if_pos hfull, if_pos hfull, if_pos hfull, if_pos ⟨c.one_le, c.available_le⟩]
        exact ih c.tail
      · rw [if_neg hfull, if_neg hfull, if_neg hfull]
        exact ⟨c, rfl, rfl⟩

/-- Only the oldest packets are dropped, each of them whole, and only while they and the
younger ones leave too little room. -/
theorem exists_dropped (c : Counted packets count queued) (length : Nat) :
    ∃ dropped, packets = dropped ++ (dropOldest length packets count queued).1 ∧
      ∀ before packet after, dropped = before ++ packet :: after →
        vdsAudioInQueueMaxBytes <
          (contents (packet :: after ++ (dropOldest length packets count queued).1)).length +
            length := by
  induction packets generalizing count queued with
  | nil => exact ⟨[], rfl, by simp⟩
  | cons oldest rest ih =>
      rw [dropOldest]
      by_cases hfull : queued + length > vdsAudioInQueueMaxBytes
      · rw [if_pos hfull]
        obtain ⟨dropped, hsplit, hforced⟩ := ih c.tail
        refine ⟨oldest :: dropped, congrArg (List.cons oldest) hsplit, ?_⟩
        intro before packet after hat
        cases before with
        | nil =>
            obtain ⟨rfl, rfl⟩ := List.cons.inj hat
            rw [List.cons_append, ← hsplit, ← c.queued]
            exact hfull
        | cons first before =>
            rw [List.cons_append] at hat
            exact hforced before packet after (List.cons.inj hat).2
      · rw [if_neg hfull]
        exact ⟨[], rfl, by simp⟩

/-- The code reads as the packet queue does, and no counter saturates. -/
theorem fillAudioIn_spec (c : Counted packets count queued) (length : Nat) :
    Counted (fillAudioIn packets count queued length).2.1
      (fillAudioIn packets count queued length).2.2.1
      (fillAudioIn packets count queued length).2.2.2 ∧
    (fillAudioIn packets count queued length).2.1.map unread =
      dropItems length (packets.map unread) ∧
    (fillAudioIn packets count queued length).1 = (contents packets).take length ++
      List.replicate (length - ((contents packets).take length).length) 0 ∧
    fillAudioInExact packets count queued length =
      some (fillAudioIn packets count queued length) := by
  induction packets generalizing count queued length with
  | nil =>
      refine ⟨c, rfl, ?_, rfl⟩
      simp [fillAudioIn, contents]
  | cons packet rest ih =>
      have hoffset := c.offset packet List.mem_cons_self
      rw [fillAudioIn, fillAudioInExact]
      by_cases hzero : length = 0
      · subst hzero
        have hunread : 0 < (unread packet).length := by
          rw [length_unread]
          omega
        rw [if_pos rfl, if_pos rfl, List.map_cons, dropItems, if_pos hunread]
        exact ⟨c, rfl, by simp, rfl⟩
      · rw [if_neg hzero, if_neg hzero]
        dsimp only
        by_cases hwhole : packet.payload.length - packet.offset ≤ length
        · -- the packet is used up and the loop goes on with the next one
          have hend : packet.offset + (packet.payload.length - packet.offset) =
              packet.payload.length := by omega
          have hdata : (packet.payload.drop packet.offset).take
              (packet.payload.length - packet.offset) = unread packet := by
            rw [← List.length_drop, List.take_length]
            rfl
          rw [Nat.min_eq_right hwhole, hdata, if_pos hend, if_pos hend, if_pos c.available_le,
            if_pos c.one_le, List.map_cons, dropItems, contents_cons, length_unread,
            if_neg (Nat.not_lt.mpr hwhole), List.take_append, length_unread,
            List.take_of_length_le (by rw [length_unread]; exact hwhole)]
          obtain ⟨hcounted, hmap, hmore, hexact⟩ :=
            ih c.tail (length - (packet.payload.length - packet.offset))
          rw [hexact]
          refine ⟨hcounted, hmap, ?_, rfl⟩
          dsimp only
          rw [hmore, List.append_assoc, List.length_append, length_unread, Nat.sub_add_eq]
        · -- the read ends inside the packet
          have hlt : length < packet.payload.length - packet.offset := Nat.lt_of_not_le hwhole
          have hinside : packet.offset + length ≠ packet.payload.length := by omega
          have hle : length ≤ queued := hlt.le.trans c.available_le
          have hfits : length ≤ (unread packet).length := by
            rw [length_unread]
            exact hlt.le
          rw [Nat.min_eq_left hlt.le, if_neg hinside, if_neg hinside, if_pos hle, List.map_cons,
            List.map_cons, dropItems, length_unread, if_pos hlt, contents_cons,
            List.take_append_of_le_length hfits]
          refine ⟨⟨?_, ?_, ?_⟩, ?_, ?_, rfl⟩
          · exact c.count
          · rw [c.queued, contents_cons, contents_cons, List.length_append, List.length_append,
              length_unread, length_unread]
            dsimp only
            omega
          · intro other hother
            rcases List.mem_cons.mp hother with rfl | hother
            · dsimp only
              omega
            · exact c.offset other (List.mem_cons_of_mem packet hother)
          · simp only [unread, List.drop_drop]
          · rw [List.length_take_of_le hfits, Nat.sub_self, List.replicate_zero, List.append_nil]
            rfl

end Counted

section Deliveries

/-- What `vds_iso_in_urb` copies for one descriptor. -/
structure Delivery where
  offset : Nat
  requested : Nat
  data : List UInt8
  /-- No packet was left afterwards. -/
  emptied : Bool

/-- The deliveries of the loop over the descriptors. -/
def deliveries (bufferLength : Nat) (dev : HcdDev) : List IsoPacketDescriptor → List Delivery
  | [] => []
  | desc :: rest =>
      if outOfBounds bufferLength desc then deliveries bufferLength dev rest
      else
        let requested := min desc.length vdsAudioInBytesPerMs
        let filled := fillAudioInLocked dev requested
        ⟨desc.offset, requested, filled.2, filled.1.audioInPackets.isEmpty⟩ ::
          deliveries bufferLength filled.1 rest

def urbDeliveries (dev : HcdDev) (urb : Urb) : List Delivery :=
  match urb.transferBuffer with
  | none => []
  | some _ => deliveries urb.transferBufferLength dev urb.isoFrameDesc

/-- Write the deliveries into the transfer buffer. -/
def place {n : Nat} (buffer : Vector UInt8 n) (delivered : List Delivery) : Vector UInt8 n :=
  delivered.foldl (fun buffer d => overwrite buffer d.offset d.data) buffer

end Deliveries

section Runs

inductive Op
  | write (frame : Frame) (alloc : Bool)
  | isoIn (urb : Urb)
  | flush
  /-- Any other section of the driver. -/
  | elsewhere (next : HcdDev)

/-- The list of packets with its counters. -/
def mic (dev : HcdDev) : List AudioPacket × Nat × Nat :=
  (dev.audioInPackets, dev.audioInPacketCount, dev.audioInQueuedBytes)

/-- The device with the payloads it accepted and the deliveries it made, and the packet
queue under the same operations with what its reads found. -/
structure Traced where
  dev : HcdDev
  written : List (List UInt8)
  delivered : List Delivery
  fifo : PacketFifo UInt8
  found : List (List UInt8)

def Traced.new (dev : HcdDev) : Traced := ⟨dev, [], [], .empty, []⟩

/-- One read after the other. -/
def pullAll (fifo : PacketFifo UInt8) : List Nat → PacketFifo UInt8 × List (List UInt8)
  | [] => (fifo, [])
  | count :: counts =>
      ((pullAll (fifo.pull count) counts).1,
        fifo.found count :: (pullAll (fifo.pull count) counts).2)

deriving instance DecidableEq for AudioPacket

def step (t : Traced) : Op → Option Traced
  | .write frame alloc =>
      let (dev, result) := writeAudioInFrame t.dev frame.payload alloc
      if result = 0 then
        some { t with
          dev
          written := t.written ++ [frame.payload]
          fifo := t.fifo.write vdsAudioInQueueMaxBytes frame.payload }
      else some { t with dev }
  | .isoIn urb =>
      let delivered := urbDeliveries t.dev urb
      let (fifo, found) := pullAll t.fifo (delivered.map Delivery.requested)
      some { t with
        dev := (isoInUrb t.dev urb).1
        delivered := t.delivered ++ delivered
        fifo
        found := t.found ++ found }
  | .flush =>
      some { t with dev := flushBufferedFramesLocked t.dev, fifo := t.fifo.flush }
  | .elsewhere next => if mic next = mic t.dev then some { t with dev := next } else none

end Runs

/-- A delivery is the audio that was found, padded with zeros when the queue ran empty. -/
structure Delivers (d : Delivery) (audio : List UInt8) : Prop where
  length_le : audio.length ≤ d.requested
  data : d.data = audio ++ List.replicate (d.requested - audio.length) 0
  emptied : audio.length < d.requested → d.emptied = true

/-- The device has the packet queue's contents, right counters and the same deliveries,
and the bytes leave the packet queue in the order in which they were written. -/
structure RefinesFifo (t : Traced) : Prop where
  queuedBytes : t.dev.audioInQueuedBytes =
    (t.dev.audioInPackets.map fun packet => packet.payload.length - packet.offset).sum
  queuedBytes_le : t.dev.audioInQueuedBytes ≤ vdsAudioInQueueMaxBytes
  packetCount : t.dev.audioInPacketCount = t.dev.audioInPackets.length
  offset : ∀ packet ∈ t.dev.audioInPackets, packet.offset < packet.payload.length
  dropExact : ∀ length, dropOldestExact length t.dev.audioInPackets t.dev.audioInPacketCount
      t.dev.audioInQueuedBytes =
    some (dropOldest length t.dev.audioInPackets t.dev.audioInPacketCount
      t.dev.audioInQueuedBytes)
  fillExact : ∀ length, fillAudioInExact t.dev.audioInPackets t.dev.audioInPacketCount
      t.dev.audioInQueuedBytes length =
    some (fillAudioIn t.dev.audioInPackets t.dev.audioInPacketCount t.dev.audioInQueuedBytes
      length)
  dropped : ∀ length, ∃ dropped, t.dev.audioInPackets = dropped ++ (dropOldest length
      t.dev.audioInPackets t.dev.audioInPacketCount t.dev.audioInQueuedBytes).1 ∧
    ∀ before packet after, dropped = before ++ packet :: after →
      vdsAudioInQueueMaxBytes < (contents (packet :: after ++ (dropOldest length
        t.dev.audioInPackets t.dev.audioInPacketCount t.dev.audioInQueuedBytes).1)).length +
          length
  segments : t.fifo.segments = t.dev.audioInPackets.map unread
  written : t.fifo.ledger.items = t.written.flatten
  delivered : t.fifo.ledger.left .delivered = t.found.flatten
  deliveries : List.Forall₂ Delivers t.delivered t.found

namespace RefinesFifo

variable {t t' : Traced}

theorem counted (r : RefinesFifo t) : Counted t.dev.audioInPackets t.dev.audioInPacketCount
    t.dev.audioInQueuedBytes :=
  ⟨r.packetCount, r.queuedBytes.trans length_contents.symm, r.offset⟩

/-- The facts about the device follow from its counters. -/
theorem of_counted (c : Counted t.dev.audioInPackets t.dev.audioInPacketCount
      t.dev.audioInQueuedBytes)
    (hle : t.dev.audioInQueuedBytes ≤ vdsAudioInQueueMaxBytes)
    (hsegments : t.fifo.segments = t.dev.audioInPackets.map unread)
    (hwritten : t.fifo.ledger.items = t.written.flatten)
    (hdelivered : t.fifo.ledger.left .delivered = t.found.flatten)
    (hdeliveries : List.Forall₂ Delivers t.delivered t.found) : RefinesFifo t where
  queuedBytes := c.queued.trans length_contents
  queuedBytes_le := hle
  packetCount := c.count
  offset := c.offset
  dropExact length := (dropOldest_spec c length).2.2
  fillExact length := (fillAudioIn_spec c length).2.2.2
  dropped length := exists_dropped c length
  segments := hsegments
  written := hwritten
  delivered := hdelivered
  deliveries := hdeliveries

theorem new {dev : HcdDev} (hempty : mic dev = ([], 0, 0)) : RefinesFifo (Traced.new dev) := by
  obtain ⟨hpackets, hcounters⟩ := Prod.mk.inj hempty
  obtain ⟨hcount, hqueued⟩ := Prod.mk.inj hcounters
  apply of_counted
  · simp only [Traced.new, hpackets, hcount, hqueued]
    exact .nil
  · simp only [Traced.new, hqueued]
    exact Nat.zero_le _
  · simp [Traced.new, PacketFifo.empty, hpackets]
  · rfl
  · rfl
  · exact .nil

/-- An accepted payload takes the place of the oldest packets that are in its way. -/
theorem write {frame : Frame} (r : RefinesFifo t) (h0 : frame.payload.length ≠ 0) :
    RefinesFifo { t with
      dev := { t.dev with
        audioInPackets := (dropOldest frame.payload.length t.dev.audioInPackets
          t.dev.audioInPacketCount t.dev.audioInQueuedBytes).1 ++ [⟨0, frame.payload⟩]
        audioInPacketCount := (dropOldest frame.payload.length t.dev.audioInPackets
          t.dev.audioInPacketCount t.dev.audioInQueuedBytes).2.1 + 1
        audioInQueuedBytes := (dropOldest frame.payload.length t.dev.audioInPackets
          t.dev.audioInPacketCount t.dev.audioInQueuedBytes).2.2 + frame.payload.length
        framesFromUser := t.dev.framesFromUser + 1 }
      written := t.written ++ [frame.payload]
      fifo := t.fifo.write vdsAudioInQueueMaxBytes frame.payload } := by
  obtain ⟨c, hkept, -⟩ := dropOldest_spec r.counted frame.payload.length
  rw [← r.segments] at hkept
  generalize dropOldest frame.payload.length t.dev.audioInPackets t.dev.audioInPacketCount
    t.dev.audioInQueuedBytes = dropped at c hkept
  obtain ⟨packets, count, queued⟩ := dropped
  dsimp only at c hkept ⊢
  have hcontents : contents (packets ++ [⟨0, frame.payload⟩]) =
      contents packets ++ frame.payload := by
    simp [contents, unread]
  apply of_counted
  · refine ⟨?_, ?_, ?_⟩
    · rw [c.count, List.length_append]
      rfl
    · rw [hcontents, List.length_append, ← c.queued]
    · intro packet hpacket
      rcases List.mem_append.mp hpacket with hpacket | hpacket
      · exact c.offset packet hpacket
      · obtain rfl := List.mem_singleton.mp hpacket
        exact Nat.pos_of_ne_zero h0
  · have hpayload : frame.payload.length ≤ vdsAudioInQueueMaxBytes :=
      frame.payload_le.trans (by decide)
    dsimp only
    rw [c.queued, contents, hkept]
    by_cases hnil : (makeRoom vdsAudioInQueueMaxBytes frame.payload.length t.fifo.segments).2 = []
    · rw [hnil]
      simpa using hpayload
    · exact makeRoom_fits hnil
  · simp only [PacketFifo.write, List.map_append, hkept, List.map_cons, List.map_nil]
    rfl
  · rw [PacketFifo.ledger_write, Ledger.items_extend, Ledger.items_retire, r.written,
      List.flatten_append, List.flatten_cons, List.flatten_nil, List.append_nil]
  · rw [PacketFifo.ledger_write, Ledger.left_extend, Ledger.left_retire_of_ne _ (by decide),
      r.delivered]
  · exact r.deliveries

/-- One descriptor reads as the packet queue does. -/
theorem fill (r : RefinesFifo t) (offset requested : Nat) :
    RefinesFifo { t with
      dev := (fillAudioInLocked t.dev requested).1
      delivered := t.delivered ++ [⟨offset, requested, (fillAudioInLocked t.dev requested).2,
        (fillAudioInLocked t.dev requested).1.audioInPackets.isEmpty⟩]
      fifo := t.fifo.pull requested
      found := t.found ++ [t.fifo.found requested] } := by
  obtain ⟨c, hmap, hdata, -⟩ := fillAudioIn_spec r.counted requested
  have hcontents : contents t.dev.audioInPackets = t.fifo.segments.flatten := by
    rw [contents, r.segments]
  have hsegments : (t.fifo.pull requested).segments =
      (fillAudioInLocked t.dev requested).1.audioInPackets.map unread := by
    rw [PacketFifo.pull, r.segments]
    exact hmap.symm
  apply of_counted
  · exact c
  · have hle := r.queuedBytes_le
    rw [r.counted.queued, hcontents] at hle
    show (fillAudioIn _ _ _ requested).2.2.2 ≤ _
    rw [c.queued, contents, hmap, flatten_dropItems, ← contents, hcontents, List.length_drop]
    omega
  · exact hsegments
  · rw [PacketFifo.ledger_pull, Ledger.items_retire, r.written]
  · rw [PacketFifo.ledger_pull, Ledger.left_retire_self, r.delivered, List.flatten_append,
      List.flatten_cons, List.flatten_nil, List.append_nil]
    rfl
  · apply List.rel_append r.deliveries
    refine .cons ⟨?_, ?_, ?_⟩ .nil
    · exact List.length_take_le _ _
    · rw [PacketFifo.found, ← hcontents]
      exact hdata
    · intro hshort
      rw [PacketFifo.found, List.length_take] at hshort
      have hempty : (t.fifo.pull requested).segments.flatten = [] := by
        rw [PacketFifo.pull, flatten_dropItems]
        apply List.drop_eq_nil_of_le
        dsimp only at hshort
        omega
      have hnil : (fillAudioInLocked t.dev requested).1.audioInPackets = [] := by
        by_contra hne
        obtain ⟨packet, hpacket⟩ := List.exists_mem_of_ne_nil _ hne
        have hunread := List.flatten_eq_nil_iff.mp hempty (unread packet)
          (hsegments ▸ List.mem_map_of_mem hpacket)
        have hoffset := c.offset packet hpacket
        have hlength := congrArg List.length hunread
        rw [length_unread, List.length_nil] at hlength
        omega
      dsimp only
      rw [hnil]
      rfl

/-- The loop over the descriptors. -/
theorem isoInPackets (r : RefinesFifo t) {n : Nat} (buffer : Vector UInt8 n)
    (descs : List IsoPacketDescriptor) :
    RefinesFifo { t with
      dev := (Sections.isoInPackets t.dev buffer descs).1
      delivered := t.delivered ++ MicQueue.deliveries n t.dev descs
      fifo := (pullAll t.fifo ((MicQueue.deliveries n t.dev descs).map Delivery.requested)).1
      found := t.found ++
        (pullAll t.fifo ((MicQueue.deliveries n t.dev descs).map Delivery.requested)).2 } := by
  induction descs generalizing t buffer with
  | nil => simpa [Sections.isoInPackets, MicQueue.deliveries, pullAll] using r
  | cons desc rest ih =>
      rw [Sections.isoInPackets, MicQueue.deliveries]
      split
      · exact ih r buffer
      · have hrest := ih (r.fill desc.offset (min desc.length vdsAudioInBytesPerMs))
          (overwrite buffer desc.offset
            (fillAudioInLocked t.dev (min desc.length vdsAudioInBytesPerMs)).2)
        simpa only [List.map_cons, pullAll, List.append_assoc, List.singleton_append] using hrest

theorem isoInUrb (r : RefinesFifo t) (urb : Urb) :
    RefinesFifo { t with
      dev := (Sections.isoInUrb t.dev urb).1
      delivered := t.delivered ++ urbDeliveries t.dev urb
      fifo := (pullAll t.fifo ((urbDeliveries t.dev urb).map Delivery.requested)).1
      found := t.found ++
        (pullAll t.fifo ((urbDeliveries t.dev urb).map Delivery.requested)).2 } := by
  unfold Sections.isoInUrb urbDeliveries
  cases urb.transferBuffer with
  | none => simpa [pullAll] using r
  | some buffer => exact r.isoInPackets buffer urb.isoFrameDesc

theorem flush (r : RefinesFifo t) :
    RefinesFifo { t with dev := flushBufferedFramesLocked t.dev, fifo := t.fifo.flush } := by
  apply of_counted
  · exact .nil
  · exact Nat.zero_le _
  · rfl
  · rw [PacketFifo.ledger_flush, Ledger.retireAll, Ledger.items_retire, r.written]
  · rw [PacketFifo.ledger_flush, Ledger.retireAll, Ledger.left_retire_of_ne _ (by decide),
      r.delivered]
  · exact r.deliveries

theorem elsewhere {next : HcdDev} (r : RefinesFifo t) (h : mic next = mic t.dev) :
    RefinesFifo { t with dev := next } := by
  obtain ⟨hpackets, hcounters⟩ := Prod.mk.inj h
  obtain ⟨hcount, hqueued⟩ := Prod.mk.inj hcounters
  apply of_counted
  · rw [hpackets, hcount, hqueued]
    exact r.counted
  · rw [hqueued]
    exact r.queuedBytes_le
  · rw [hpackets]
    exact r.segments
  · exact r.written
  · exact r.delivered
  · exact r.deliveries

protected theorem step {op : Op} (r : RefinesFifo t) (h : MicQueue.step t op = some t') :
    RefinesFifo t' := by
  cases op with
  | write frame alloc =>
      simp only [MicQueue.step] at h
      unfold writeAudioInFrame at h
      split at h
      · obtain rfl := Option.some.inj h
        exact r
      split at h
      · obtain rfl := Option.some.inj h
        exact r
      split at h
      · obtain rfl := Option.some.inj h
        exact r
      · obtain rfl := Option.some.inj h
        apply r.write
        assumption
  | isoIn urb =>
      obtain rfl := Option.some.inj h
      exact r.isoInUrb urb
  | flush =>
      obtain rfl := Option.some.inj h
      exact r.flush
  | elsewhere next =>
      obtain ⟨hmic, ⟨⟩⟩ := Option.ite_none_right_eq_some.mp h
      exact r.elsewhere hmic

end RefinesFifo

section Frames

/-- The operation cuts the audio at frame boundaries only. -/
def Op.aligned : Op → Prop
  | .write frame _ => stereoFrameBytes ∣ frame.payload.length
  | .isoIn urb => ∀ desc ∈ urb.isoFrameDesc, stereoFrameBytes ∣ desc.length
  | .flush => True
  | .elsewhere _ => True

/-- The queue and what was read from it are made of written frames. -/
structure Aligned (t : Traced) : Prop where
  segments : ∀ segment ∈ t.fifo.segments,
    MadeOf stereoFrameBytes (blocksOf stereoFrameBytes t.written) segment
  found : ∀ audio ∈ t.found,
    MadeOf stereoFrameBytes (blocksOf stereoFrameBytes t.written) audio
  requested : ∀ d ∈ t.delivered, stereoFrameBytes ∣ d.requested

theorem dvd_requested {n : Nat} {dev : HcdDev} {descs : List IsoPacketDescriptor}
    (h : ∀ desc ∈ descs, stereoFrameBytes ∣ desc.length) :
    ∀ d ∈ deliveries n dev descs, stereoFrameBytes ∣ d.requested := by
  induction descs generalizing dev with
  | nil => simp [deliveries]
  | cons desc rest ih =>
      have hrest : ∀ desc ∈ rest, stereoFrameBytes ∣ desc.length := by
        intro other hother
        exact h other (List.mem_cons_of_mem desc hother)
      have hdesc := h desc List.mem_cons_self
      rw [deliveries]
      split
      · exact ih hrest
      · intro d hd
        rcases List.mem_cons.mp hd with rfl | hd
        · dsimp only
          rcases Nat.le_total desc.length vdsAudioInBytesPerMs with hle | hle
          · rwa [Nat.min_eq_left hle]
          · rw [Nat.min_eq_right hle]
            decide
        · exact ih hrest d hd

theorem madeOf_pullAll {S : Set (List UInt8)} {fifo : PacketFifo UInt8} {counts : List Nat}
    (hcounts : ∀ count ∈ counts, stereoFrameBytes ∣ count)
    (h : ∀ segment ∈ fifo.segments, MadeOf stereoFrameBytes S segment) :
    (∀ segment ∈ (pullAll fifo counts).1.segments, MadeOf stereoFrameBytes S segment) ∧
      ∀ audio ∈ (pullAll fifo counts).2, MadeOf stereoFrameBytes S audio := by
  induction counts generalizing fifo with
  | nil => exact ⟨h, by simp [pullAll]⟩
  | cons count counts ih =>
      have hcount := hcounts count List.mem_cons_self
      obtain ⟨hsegments, hfound⟩ := @ih (fifo.pull count)
        (fun c hc => hcounts c (List.mem_cons_of_mem count hc))
        (madeOf_dropItems stereoFrameBytes_pos hcount h)
      refine ⟨hsegments, ?_⟩
      intro audio haudio
      rcases List.mem_cons.mp haudio with rfl | haudio
      · exact (MadeOf.flatten stereoFrameBytes_pos h).take stereoFrameBytes_pos hcount
      · exact hfound audio haudio

namespace Aligned

variable {t t' : Traced}

theorem new (dev : HcdDev) : Aligned (Traced.new dev) where
  segments := by simp [Traced.new, PacketFifo.empty]
  found := by simp [Traced.new]
  requested := by simp [Traced.new]

theorem write {frame : Frame} {dev : HcdDev} (al : Aligned t)
    (h : stereoFrameBytes ∣ frame.payload.length) :
    Aligned { t with
      dev
      written := t.written ++ [frame.payload]
      fifo := t.fifo.write vdsAudioInQueueMaxBytes frame.payload } where
  segments := by
    intro segment hsegment
    rcases List.mem_append.mp hsegment with hkept | hnew
    · exact (al.segments segment (mem_of_mem_kept hkept)).mono (blocksOf_subset_append _ _ _)
    · obtain rfl := List.mem_singleton.mp hnew
      exact .of_mem h (List.mem_append_right _ (List.mem_singleton_self _))
  found audio haudio := (al.found audio haudio).mono (blocksOf_subset_append _ _ _)
  requested := al.requested

theorem isoIn {urb : Urb} {dev : HcdDev} (al : Aligned t)
    (h : ∀ desc ∈ urb.isoFrameDesc, stereoFrameBytes ∣ desc.length) :
    Aligned { t with
      dev
      delivered := t.delivered ++ urbDeliveries t.dev urb
      fifo := (pullAll t.fifo ((urbDeliveries t.dev urb).map Delivery.requested)).1
      found := t.found ++
        (pullAll t.fifo ((urbDeliveries t.dev urb).map Delivery.requested)).2 } := by
  have hrequested : ∀ d ∈ urbDeliveries t.dev urb, stereoFrameBytes ∣ d.requested := by
    unfold urbDeliveries
    cases urb.transferBuffer with
    | none => simp
    | some buffer => exact dvd_requested h
  have hcounts : ∀ count ∈ (urbDeliveries t.dev urb).map Delivery.requested,
      stereoFrameBytes ∣ count := by
    simpa using hrequested
  obtain ⟨hsegments, hfound⟩ := madeOf_pullAll hcounts al.segments
  refine ⟨hsegments, ?_, ?_⟩
  · intro audio haudio
    rcases List.mem_append.mp haudio with haudio | haudio
    · exact al.found audio haudio
    · exact hfound audio haudio
  · intro d hd
    rcases List.mem_append.mp hd with hd | hd
    · exact al.requested d hd
    · exact hrequested d hd

protected theorem step {op : Op} (al : Aligned t) (ok : op.aligned)
    (h : MicQueue.step t op = some t') : Aligned t' := by
  cases op with
  | write frame alloc =>
      simp only [MicQueue.step] at h
      split at h
      · obtain rfl := Option.some.inj h
        exact al.write ok
      · obtain rfl := Option.some.inj h
        exact ⟨al.segments, al.found, al.requested⟩
  | isoIn urb =>
      obtain rfl := Option.some.inj h
      exact al.isoIn ok
  | flush =>
      obtain rfl := Option.some.inj h
      exact ⟨by simp [PacketFifo.flush], al.found, al.requested⟩
  | elsewhere next =>
      obtain ⟨-, ⟨⟩⟩ := Option.ite_none_right_eq_some.mp h
      exact ⟨al.segments, al.found, al.requested⟩

end Aligned

end Frames

section Traces

end Traces

end VirtualDualSense.Hcd.MicQueue
