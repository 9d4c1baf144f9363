/-
# `Rs1722.Avtp.Transport.Ethernet` — AVTP packets in Ethernet frames

`src/avtp/transport/ethernet.rs`.  The datalink channel is outside: the sender is handed what
`send_to` answers, the receiver the list of what `rx.next()` will answer.  On the empty list
the receiver blocks.

    a sent packet's frame is an AVTP frame, and its payload is read as the packet
                                                                    (`frame_payload`)
    a frame is skipped, or decides the call                         (`recvNextWith_cons`)
-/
import Rs1722.Avtp.Wire

namespace Rs1722

open Lib

/-- `ETHER_TYPE`. -/
def etherType : UInt16 := 0x22F0

/-- `to_be_bytes`. -/
def toBeBytes (n : UInt16) : List UInt8 := [(n >>> 8).toUInt8, n.toUInt8]

/-- `u16::from_be_bytes`. -/
def fromBeBytes (hi lo : UInt8) : UInt16 := (hi.toUInt16 <<< 8) ||| lo.toUInt16

variable (io : BitstreamIo) (b : Build)

/-! ## Sending -/

/-- `EthernetSenderError`, without the errors of opening a channel. -/
inductive EthernetSenderError where
  | serialize (e : IOWrapError AvtpduError)
  | send (text : String)
  deriving DecidableEq, Repr

/-- `EthernetAvtpSender`, without its datalink channel. -/
structure EthernetAvtpSender where
  srcMac : MacAddr
  dstMac : MacAddr
  frameBuf : List UInt8

/-- `EthernetAvtpSender::send`; `sendTo` is what the datalink channel answers to a frame. -/
def EthernetAvtpSender.send (sendTo : List UInt8 → Option (Except String Unit))
    (packet : Avtpdu) : Act EthernetAvtpSender EthernetSenderError Unit := do
  Act.modify fun s => { s with
    frameBuf := s.dstMac.octets.toList ++ s.srcMac.octets.toList ++ toBeBytes etherType }
  Act.zoom EthernetAvtpSender.frameBuf (fun frameBuf s => { s with frameBuf })
    (Act.mapErr .serialize (packet.write io b))
  let s ← Act.self
  let sent ← Act.lift (Outcome.okOr (.send "send returned None") (sendTo s.frameBuf))
  Act.lift ((Outcome.ofExcept sent).mapErr .send)

/-! ## Receiving -/

/-- `EthernetReceiverError`, without the error of opening a channel. -/
inductive EthernetReceiverError where
  | receive (text : String)
  | parse (e : IOWrapError AvtpduError)
  deriving DecidableEq, Repr

/-- What the receiver meets next: the answer of `rx.next()`, and what the caller's closure
returns if it is called on that frame. -/
structure Arrival (τ : Type) where
  frame : Except String (List UInt8)
  metadata : τ

def isAvtpFrame (frame : List UInt8) : Prop :=
  14 ≤ frame.length ∧ fromBeBytes (frame.getD 12 0) (frame.getD 13 0) = etherType

instance (frame : List UInt8) : Decidable (isAvtpFrame frame) :=
  inferInstanceAs (Decidable (_ ∧ _))

section Recv
variable {τ : Type}

/-- `EthernetAvtpReceiver::recv_next_with`: the result, if the call returns, and what is still
to arrive. -/
def recvNextWith : List (Arrival τ) →
    Option (Outcome EthernetReceiverError (τ × Avtpdu)) × List (Arrival τ)
  | [] => (none, [])
  | a :: rest =>
      match a.frame with
      | .error e => (some (.err (.receive e)), rest)
      | .ok frame =>
          if frame.length < 14 then recvNextWith rest
          else if fromBeBytes (frame.getD 12 0) (frame.getD 13 0) ≠ etherType then
            recvNextWith rest
          else
            let payload := frame.drop 14
            (some (do
              let avtpdu ← (Avtpdu.read io b payload).1.mapErr .parse
              return (a.metadata, avtpdu)), rest)

variable {io b}

/-- A frame that is not AVTP's is skipped; any other decides the call. -/
theorem recvNextWith_frame (frame : List UInt8) (m : τ) (rest : List (Arrival τ)) :
    recvNextWith io b (⟨.ok frame, m⟩ :: rest) =
      if isAvtpFrame frame then
        (some (do
          let avtpdu ← (Avtpdu.read io b (frame.drop 14)).1.mapErr .parse
          return (m, avtpdu)), rest)
      else recvNextWith io b rest := by
  show (if frame.length < 14 then _ else _) = _
  by_cases hlen : frame.length < 14
  · rw [if_pos hlen, if_neg fun h => absurd h.1 (Nat.not_le_of_lt hlen)]
  · rw [if_neg hlen]
    by_cases htype : fromBeBytes (frame.getD 12 0) (frame.getD 13 0) = etherType
    · rw [if_neg (not_not.mpr htype), if_pos ⟨Nat.not_lt.mp hlen, htype⟩]
    · rw [if_pos htype, if_neg fun h => htype h.2]

theorem recvNextWith_length {arrivals rest : List (Arrival τ)}
    {x : Outcome EthernetReceiverError (τ × Avtpdu)}
    (h : recvNextWith io b arrivals = (some x, rest)) : rest.length < arrivals.length := by
  induction arrivals with
  | nil => cases h
  | cons a arrivals ih =>
      rcases a with ⟨e | frame, m⟩
      · obtain rfl := (Prod.mk.inj h).2
        exact Nat.lt_succ_self _
      · rw [recvNextWith_frame] at h
        split at h
        · obtain rfl := (Prod.mk.inj h).2
          exact Nat.lt_succ_self _
        · exact Nat.lt_succ_of_lt (ih h)

end Recv

/-! ## A frame that was sent -/

/-- The frame a sender makes of the packet whose image is `bytes`. -/
def EthernetAvtpSender.frame (s : EthernetAvtpSender) (bytes : List UInt8) : List UInt8 :=
  s.dstMac.octets.toList ++ s.srcMac.octets.toList ++ toBeBytes etherType ++ bytes

theorem EthernetAvtpSender.frame_isAvtp (s : EthernetAvtpSender) (bytes : List UInt8) :
    isAvtpFrame (s.frame bytes) := by
  refine ⟨by simp [frame, toBeBytes]; omega, ?_⟩
  -- the two type bytes stand behind the two addresses
  have htype : toBeBytes etherType = [0x22, 0xF0] := by decide
  have hhi : (s.frame bytes).getD 12 0 = 0x22 := by
    simp [frame, htype, List.getD_eq_getElem?_getD, List.getElem?_append]
  have hlo : (s.frame bytes).getD 13 0 = 0xF0 := by
    simp [frame, htype, List.getD_eq_getElem?_getD, List.getElem?_append]
  rw [hhi, hlo]
  rfl

theorem EthernetAvtpSender.frame_payload (s : EthernetAvtpSender) (bytes : List UInt8) :
    (s.frame bytes).drop 14 = bytes := by
  have hlen : (s.dstMac.octets.toList ++ s.srcMac.octets.toList ++ toBeBytes etherType).length
      = 14 := by
    simp [toBeBytes]
  exact List.drop_left' hlen

theorem EthernetAvtpSender.send_eq {packet : Avtpdu} (h : packet.WellFormed) {bytes : List UInt8}
    (hbytes : bytesBits bytes = packet.bits)
    (sendTo : List UInt8 → Option (Except String Unit)) (s : EthernetAvtpSender) :
    s.send io b sendTo packet =
      ((do
        let sent ← Outcome.okOr (.send "send returned None") (sendTo (s.frame bytes))
        (Outcome.ofExcept sent).mapErr .send), { s with frameBuf := s.frame bytes }) := by
  have hwrite : packet.write io b
      (s.dstMac.octets.toList ++ s.srcMac.octets.toList ++ toBeBytes etherType) =
        (.ok (), s.frame bytes) := Avtpdu.write_eq h hbytes _
  unfold send
  rw [Act.modify_bind_apply, Act.bind_of_ok
    (show _ = (Outcome.ok (), { s with frameBuf := s.frame bytes }) by
      rw [Act.zoom_apply, Act.mapErr_apply, hwrite]
      rfl), Act.self_bind_apply]
  cases sendTo (s.frame bytes) <;> rfl

end Rs1722
