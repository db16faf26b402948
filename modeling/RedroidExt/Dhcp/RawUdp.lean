import RedroidExt.Dhcp.Socket
import RedroidExt.Library.OnesComplement

/-!
# Sending a raw frame

`Socket::sendRawUdp` builds the IP and UDP headers itself. Both checksums are sums of
16-bit words in host order, accumulated in 32 bits and folded after each piece.
-/

namespace RedroidExt.Dhcp

open RedroidExt.Library RedroidExt.Library.ByteMemory RedroidExt.Library.OnesComplement

set_option autoImplicit false

/-! ## Checksums -/

/-- The `while` loop of `addChecksum` and the odd byte behind it. -/
def addWords : List UInt8 → UInt32 → UInt32
  | low :: high :: rest, checksum => addWords rest (checksum + (word16 low high).toUInt32)
  | [last], checksum => checksum + last.toUInt32
  | [], checksum => checksum

/-- One round of the `for` loop that folds the upper 16 bits into the lower ones. -/
def foldStep (checksum : UInt32) : UInt32 ⊕ UInt32 :=
  let msw := checksum >>> 16
  if msw ≠ 0 then .inl ((checksum &&& 0xFFFF) + msw) else .inr checksum

def addChecksum (buffer : List UInt8) (checksum : UInt32) : UInt32 :=
  (Loop.run foldStep 4 (addWords buffer checksum)).getD 0

def finishChecksum (checksum : UInt32) : UInt32 := ~~~checksum &&& 0xFFFF

/-! ## Headers -/

/-- `struct iphdr`; its words are kept as they lie in memory. -/
structure IpHdr where
  version : UInt8
  ihl : UInt8
  tos : UInt8
  totLen : UInt16
  id : UInt16
  fragOff : UInt16
  ttl : UInt8
  protocol : UInt8
  check : UInt16
  saddr : InAddr
  daddr : InAddr

/-- `version` is the high and `ihl` the low half of the first byte. -/
def IpHdr.bytes (ip : IpHdr) : List UInt8 :=
  [ip.version <<< 4 ||| ip.ihl, ip.tos] ++ bytes16 ip.totLen ++ bytes16 ip.id ++
    bytes16 ip.fragOff ++ [ip.ttl, ip.protocol] ++ bytes16 ip.check ++ bytes32 ip.saddr ++
    bytes32 ip.daddr

/-- `struct udphdr`. -/
structure UdpHdr where
  source : UInt16
  dest : UInt16
  len : UInt16
  check : UInt16

def UdpHdr.bytes (udp : UdpHdr) : List UInt8 :=
  bytes16 udp.source ++ bytes16 udp.dest ++ bytes16 udp.len ++ bytes16 udp.check

/-- `sizeof(iphdr)`, `sizeof(udphdr)` and `IPDEFTTL`. -/
abbrev ipHeaderSize : Nat := 20
abbrev udpHeaderSize : Nat := 8
abbrev ipDefTtl : UInt8 := 64

/-- The IP header in front of its checksum. -/
def rawIpHeader (source destination : InAddr) (message : Message) : IpHdr where
  version := ipVersion
  ihl := ipHeaderWords
  tos := 0
  totLen := swap16 (UInt16.ofNat (ipHeaderSize + udpHeaderSize + message.mSize))
  id := 0
  fragOff := 0
  ttl := ipDefTtl
  protocol := ipProtoUdp
  check := 0
  saddr := source
  daddr := destination

/-- The UDP header in front of its checksum. -/
def rawUdpHeader (sourcePort destinationPort : UInt16) (message : Message) : UdpHdr where
  source := swap16 sourcePort
  dest := swap16 destinationPort
  len := swap16 (UInt16.ofNat (udpHeaderSize + message.mSize))
  check := 0

/-- The check field of the UDP header. -/
def udpCheck (ip : IpHdr) (udp : UdpHdr) (message : Message) : UInt16 :=
  let udpChecksum := 0
  let udpChecksum := addChecksum (bytes32 ip.saddr) udpChecksum
  let udpChecksum := addChecksum (bytes32 ip.daddr) udpChecksum
  let udpChecksum := addChecksum (bytes16 (swap16 ipProtoUdp.toUInt16)) udpChecksum
  let udpChecksum := addChecksum (bytes16 udp.len) udpChecksum
  let udpChecksum := addChecksum udp.bytes udpChecksum
  let udpChecksum := addChecksum message.bytes udpChecksum
  (finishChecksum udpChecksum).toUInt16

/-- The bytes that `sendmsg` is given: the two headers and the message. -/
def sendRawUdp (source : InAddr) (sourcePort : UInt16) (destination : InAddr)
    (destinationPort : UInt16) (message : Message) : List UInt8 :=
  let ip := rawIpHeader source destination message
  let ip := { ip with check := (finishChecksum (addChecksum ip.bytes 0)).toUInt16 }
  let udp := rawUdpHeader sourcePort destinationPort message
  let udp := { udp with check := udpCheck ip udp message }
  ip.bytes ++ udp.bytes ++ message.bytes

/-! ## What a checksum adds up to -/

/-- No addition of the `while` loop wraps. -/
def WordsFit : List UInt8 → UInt32 → Prop
  | low :: high :: rest, checksum =>
      checksum.toNat + (word16 low high).toNat < 2 ^ 32 ∧
        WordsFit rest (checksum + (word16 low high).toUInt32)
  | [last], checksum => checksum.toNat + last.toNat < 2 ^ 32
  | [], _ => True

theorem add_words_exact (buffer : List UInt8) (checksum : UInt32)
    (room : checksum.toNat + (hostWords buffer).sum < 2 ^ 32) :
    (addWords buffer checksum).toNat = checksum.toNat + (hostWords buffer).sum ∧
      WordsFit buffer checksum := by
  induction buffer, checksum using addWords.induct with
  | case1 low high rest checksum ih =>
      simp only [hostWords, List.sum_cons] at room ⊢
      have word := word16_toNat low high
      have added : (checksum + (word16 low high).toUInt32).toNat =
          checksum.toNat + (word16 low high).toNat := by
        rw [UInt32.toNat_add, UInt16.toNat_toUInt32]
        exact Nat.mod_eq_of_lt (by omega)
      obtain ⟨sum, fits⟩ := ih (by omega)
      refine ⟨?_, by omega, fits⟩
      rw [addWords, sum]
      omega
  | case2 last checksum =>
      simp only [hostWords, List.sum_cons, List.sum_nil] at room ⊢
      refine ⟨?_, room⟩
      rw [addWords, UInt32.toNat_add, UInt8.toNat_toUInt32]
      exact Nat.mod_eq_of_lt room
  | case3 checksum => exact ⟨rfl, trivial⟩

/-- A fold keeps the sum modulo 65535 and takes no sum but zero to zero. -/
structure Folds (sum : Nat) (checksum : UInt32) : Prop where
  congruent : checksum.toNat % 65535 = sum % 65535
  zero : checksum.toNat = 0 ↔ sum = 0

theorem fold_parts (checksum : UInt32) :
    (checksum &&& 0xFFFF).toNat = checksum.toNat % 65536 ∧
      (checksum >>> 16).toNat = checksum.toNat / 65536 := by
  constructor
  · rw [UInt32.toNat_and]
    exact Nat.and_two_pow_sub_one_eq_mod _ 16
  · rw [UInt32.toNat_shiftRight]
    exact Nat.shiftRight_eq_div_pow _ 16

theorem fold_step_again {checksum next : UInt32} (again : foldStep checksum = .inl next) :
    checksum.toNat / 65536 ≠ 0 ∧ next.toNat = checksum.toNat % 65536 + checksum.toNat / 65536 := by
  obtain ⟨low, high⟩ := fold_parts checksum
  have bound := checksum.toNat_lt
  unfold foldStep at again
  dsimp only at again
  split_ifs at again with more
  refine ⟨?_, ?_⟩
  · rw [← high]
    exact fun zero => more (UInt32.toNat_inj.mp zero)
  · rw [← Sum.inl.inj again, UInt32.toNat_add, low, high]
    exact Nat.mod_eq_of_lt (by omega)

theorem fold_step_exit {checksum result : UInt32} (exit : foldStep checksum = .inr result) :
    result = checksum ∧ checksum.toNat ≤ 65535 := by
  obtain ⟨-, high⟩ := fold_parts checksum
  unfold foldStep at exit
  dsimp only at exit
  split_ifs at exit with done
  have zero : (checksum >>> 16).toNat = 0 := by
    rw [not_not.mp done]
    rfl
  exact ⟨(Sum.inr.inj exit).symm, by omega⟩

/-- Three rounds at most: the sum of two halves has one more bit, and then none. -/
def roundsLeft (checksum : UInt32) : Nat :=
  if checksum.toNat ≤ 65535 then 0 else if checksum.toNat ≤ 131070 then 1 else 2

theorem fold_step_decreases (checksum next : UInt32) (again : foldStep checksum = .inl next) :
    roundsLeft next < roundsLeft checksum := by
  obtain ⟨more, sum⟩ := fold_step_again again
  have bound := checksum.toNat_lt
  unfold roundsLeft
  split_ifs <;> omega

theorem add_checksum_run (buffer : List UInt8) (checksum : UInt32) :
    Loop.run foldStep 4 (addWords buffer checksum) = some (addChecksum buffer checksum) := by
  have enough : roundsLeft (addWords buffer checksum) < 4 := by
    unfold roundsLeft
    split_ifs <;> decide
  obtain ⟨result, finished⟩ := Loop.run_some_of_measure roundsLeft fold_step_decreases
    (addWords buffer checksum) 4 enough
  rw [addChecksum, finished, Option.getD_some]

theorem folds_trans {sum : Nat} {checksum next : UInt32} (before : Folds sum checksum)
    (again : foldStep checksum = .inl next) : Folds sum next := by
  obtain ⟨more, added⟩ := fold_step_again again
  have kept := before.congruent
  have zero := before.zero
  constructor
  · omega
  · omega

/-- A call of `addChecksum`: the result has 16 bits and stands for the sum of the checksum so
far and the words of the buffer, no addition on the way wraps, and the folding ends. -/
structure Adds (buffer : List UInt8) (checksum : UInt32) : Prop where
  bound : (addChecksum buffer checksum).toNat ≤ 65535
  folds : Folds (checksum.toNat + (hostWords buffer).sum) (addChecksum buffer checksum)
  fit : WordsFit buffer checksum
  carriesFit : ∀ folded, Loop.Visits foldStep (addWords buffer checksum) folded →
    (folded &&& 0xFFFF).toNat + (folded >>> 16).toNat < 2 ^ 32
  returns : Loop.Returns foldStep (addWords buffer checksum) (addChecksum buffer checksum)

theorem add_checksum_adds {buffer : List UInt8} {checksum : UInt32}
    (small : checksum.toNat ≤ 65535) (short : buffer.length ≤ 65536) : Adds buffer checksum := by
  have bound := host_words_sum_le buffer
  obtain ⟨sum, fit⟩ := add_words_exact buffer checksum (by omega)
  have finished := add_checksum_run buffer checksum
  have start : Folds (checksum.toNat + (hostWords buffer).sum) (addWords buffer checksum) := by
    rw [← sum]
    exact ⟨rfl, Iff.rfl⟩
  have result : (addChecksum buffer checksum).toNat ≤ 65535 ∧
      Folds (checksum.toNat + (hostWords buffer).sum) (addChecksum buffer checksum) := by
    refine Loop.run_invariant (Folds (checksum.toNat + (hostWords buffer).sum))
      (fun result => result.toNat ≤ 65535 ∧
        Folds (checksum.toNat + (hostWords buffer).sum) result) ?_ ?_ start finished
    · exact fun _ _ before again => folds_trans before again
    · intro state result before exit
      obtain ⟨same, folded⟩ := fold_step_exit exit
      rw [same]
      exact ⟨folded, before⟩
  refine ⟨result.1, result.2, fit, ?_, ⟨4, finished⟩⟩
  intro folded _
  obtain ⟨low, high⟩ := fold_parts folded
  have word := folded.toNat_lt
  omega

theorem finish_checksum_toNat {checksum : UInt32} (folded : checksum.toNat ≤ 65535) :
    (finishChecksum checksum).toUInt16.toNat = 65535 - checksum.toNat := by
  obtain ⟨low, -⟩ := fold_parts (~~~checksum)
  have inverted : (~~~checksum).toNat = 2 ^ 32 - 1 - checksum.toNat := by
    rw [UInt32.toNat_not]
    rfl
  unfold finishChecksum
  rw [UInt32.toNat_toUInt16, low, inverted]
  omega

/-! ## Several pieces -/

/-- Every call of `addChecksum` for the pieces one after the other. -/
def checksumCalls : UInt32 → List (List UInt8) → List (List UInt8 × UInt32)
  | _, [] => []
  | checksum, piece :: rest =>
      (piece, checksum) :: checksumCalls (addChecksum piece checksum) rest

def addPieces (checksum : UInt32) (pieces : List (List UInt8)) : UInt32 :=
  pieces.foldl (fun checksum piece => addChecksum piece checksum) checksum

/-- Pieces of even size, but for the last one, add up to the bytes as a whole. -/
theorem add_pieces_folds {pieces : List (List UInt8)} {last : List UInt8} {checksum : UInt32}
    (small : checksum.toNat ≤ 65535)
    (sized : ∀ piece ∈ pieces, piece.length % 2 = 0 ∧ piece.length ≤ 65536)
    (short : last.length ≤ 65536) :
    (addPieces checksum (pieces ++ [last])).toNat ≤ 65535 ∧
      Folds (checksum.toNat + (hostWords (pieces.flatten ++ last)).sum)
        (addPieces checksum (pieces ++ [last])) ∧
      ∀ call ∈ checksumCalls checksum (pieces ++ [last]), Adds call.1 call.2 := by
  induction pieces generalizing checksum with
  | nil =>
      have adds := add_checksum_adds small short
      refine ⟨adds.bound, adds.folds, ?_⟩
      intro call member
      rw [List.mem_singleton.mp member]
      exact adds
  | cons piece rest ih =>
      obtain ⟨even, short⟩ := sized piece List.mem_cons_self
      have adds := add_checksum_adds small short
      obtain ⟨bound, folds, calls⟩ := ih adds.bound fun other member =>
        sized other (List.mem_cons_of_mem _ member)
      refine ⟨bound, ?_, ?_⟩
      · rw [List.flatten_cons, List.append_assoc, host_words_append _ _ even, List.sum_append]
        have first := adds.folds
        constructor
        · have congruent := folds.congruent
          have before := first.congruent
          change (addPieces (addChecksum piece checksum) (rest ++ [last])).toNat % 65535 = _
          omega
        · have zero := folds.zero
          have before := first.zero
          change (addPieces (addChecksum piece checksum) (rest ++ [last])).toNat = 0 ↔ _
          omega
      · intro call member
        rcases List.mem_cons.mp member with same | later
        · rw [same]
          exact adds
        · exact calls call later

/-! ## The frame -/

/-- What the UDP checksum is computed over, piece by piece. -/
def udpPieces (ip : IpHdr) (udp : UdpHdr) : List (List UInt8) :=
  [bytes32 ip.saddr, bytes32 ip.daddr, bytes16 (swap16 ipProtoUdp.toUInt16), bytes16 udp.len,
    udp.bytes]

theorem udp_check_eq (ip : IpHdr) (udp : UdpHdr) (message : Message) :
    udpCheck ip udp message =
      (finishChecksum (addPieces 0 (udpPieces ip udp ++ [message.bytes]))).toUInt16 := rfl

theorem ip_bytes_length (ip : IpHdr) : ip.bytes.length = ipHeaderSize := rfl

theorem udp_bytes_length (udp : UdpHdr) : udp.bytes.length = udpHeaderSize := rfl

theorem udp_pieces_sized (ip : IpHdr) (udp : UdpHdr) :
    ∀ piece ∈ udpPieces ip udp, piece.length % 2 = 0 ∧ piece.length ≤ 65536 := by
  simp [udpPieces, udp_bytes_length, udpHeaderSize]

theorem host_words_bytes16 (word : UInt16) (rest : List UInt8) :
    hostWords (bytes16 word ++ rest) = word.toNat :: hostWords rest := by
  have bound := word.toNat_lt
  simp only [bytes16, List.cons_append, List.nil_append, hostWords, UInt8.toNat_ofNat']
  congr 1
  omega

/-- Filling a check field in adds its value to the host-order sum. -/
theorem check_sum {front : List UInt8} (even : front.length % 2 = 0) (check : UInt16)
    (back : List UInt8) :
    (hostWords (front ++ (bytes16 check ++ back))).sum =
      (hostWords (front ++ (bytes16 0 ++ back))).sum + check.toNat := by
  rw [host_words_append _ _ even, host_words_append _ _ even, List.sum_append, List.sum_append,
    host_words_bytes16, host_words_bytes16, List.sum_cons, List.sum_cons, UInt16.toNat_zero]
  omega

/-- The bytes of the IP header around its check field. -/
def IpHdr.front (ip : IpHdr) : List UInt8 :=
  [ip.version <<< 4 ||| ip.ihl, ip.tos] ++ bytes16 ip.totLen ++ bytes16 ip.id ++
    bytes16 ip.fragOff ++ [ip.ttl, ip.protocol]

theorem ip_bytes_split (ip : IpHdr) :
    ip.bytes = ip.front ++ (bytes16 ip.check ++ (bytes32 ip.saddr ++ bytes32 ip.daddr)) := rfl

/-- With the finished checksum filled in, the words add up to all ones. -/
theorem filled_sum {front back : List UInt8} {checksum : UInt32} (even : front.length % 2 = 0)
    (folded : checksum.toNat ≤ 65535)
    (folds : Folds (hostWords (front ++ (bytes16 0 ++ back))).sum checksum)
    (some : (hostWords (front ++ (bytes16 0 ++ back))).sum ≠ 0) :
    onesSum (networkWords (front ++ (bytes16 (finishChecksum checksum).toUInt16 ++ back))) =
      65535 := by
  rw [ones_sum_bytes_iff, check_sum even, finish_checksum_toNat folded]
  have congruent := folds.congruent
  constructor
  · omega
  · omega

theorem bytes16_swap16 (word : UInt16) :
    bytes16 (swap16 word) = [UInt8.ofNat (word.toNat / 256), UInt8.ofNat word.toNat] :=
  bytes16_word16 _ _

theorem bytes16_swap16_ofNat {value : Nat} (small : value < 65536) :
    bytes16 (swap16 (UInt16.ofNat value)) = [UInt8.ofNat (value / 256), UInt8.ofNat value] := by
  rw [bytes16_swap16, UInt16.toNat_ofNat_of_lt' small]

/-- The 16-bit word in network order at an offset. -/
def networkWord (frame : List UInt8) (offset : Nat) : Nat :=
  256 * (frame.getD offset 0).toNat + (frame.getD (offset + 1) 0).toNat

/-- The addresses of a frame, its protocol and the size behind the IP header. -/
def pseudoHeader (frame : List UInt8) : List UInt8 :=
  (frame.drop 12).take 8 ++ [0, frame.getD 9 0] ++
    [UInt8.ofNat ((frame.length - ipHeaderSize) / 256), UInt8.ofNat (frame.length - ipHeaderSize)]

/-- A UDP datagram as its receiver checks it. -/
structure ValidDatagram (source destination : InAddr) (frame : List UInt8) : Prop where
  totalLength : networkWord frame 2 = frame.length
  udpLength : networkWord frame 24 = frame.length - ipHeaderSize
  addresses : (frame.drop 12).take 8 = bytes32 source ++ bytes32 destination
  ipSum : onesSum (networkWords (frame.take ipHeaderSize)) = 65535
  udpSum : onesSum (networkWords (pseudoHeader frame ++ frame.drop ipHeaderSize)) = 65535

section Frame

variable (source : InAddr) (sourcePort : UInt16) (destination : InAddr) (destinationPort : UInt16)
  (message : Message)

/-- The IP header with its checksum. -/
def sentIpHeader : IpHdr :=
  let ip := rawIpHeader source destination message
  { ip with check := (finishChecksum (addChecksum ip.bytes 0)).toUInt16 }

/-- The UDP header with its checksum. -/
def sentUdpHeader : UdpHdr :=
  let udp := rawUdpHeader sourcePort destinationPort message
  { udp with check := udpCheck (sentIpHeader source destination message) udp message }

/-- Every call of `addChecksum` for one frame. -/
def frameCalls : List (List UInt8 × UInt32) :=
  let ip := rawIpHeader source destination message
  let udp := rawUdpHeader sourcePort destinationPort message
  (ip.bytes, 0) ::
    checksumCalls 0 (udpPieces (sentIpHeader source destination message) udp ++ [message.bytes])

theorem send_raw_udp_eq :
    sendRawUdp source sourcePort destination destinationPort message =
      (sentIpHeader source destination message).bytes ++
        ((sentUdpHeader source sourcePort destination destinationPort message).bytes ++
          message.bytes) := by
  rw [← List.append_assoc]
  rfl

theorem send_raw_udp_length :
    (sendRawUdp source sourcePort destination destinationPort message).length =
      rawHeaderSize + message.mSize := by
  rw [send_raw_udp_eq, List.length_append, List.length_append, ip_bytes_length, udp_bytes_length,
    Message.bytes_length, ← Nat.add_assoc]
  rfl

theorem network_word_at (front back : List UInt8) {value : Nat} (small : value < 65536) :
    networkWord (front ++ (bytes16 (swap16 (UInt16.ofNat value)) ++ back)) front.length =
      value := by
  rw [bytes16_swap16_ofNat small]
  unfold networkWord
  rw [List.getD_append_right _ _ _ _ (Nat.le_refl _),
    List.getD_append_right _ _ _ _ (Nat.le_add_right _ _), Nat.sub_self, Nat.add_sub_cancel_left]
  simp only [List.cons_append, List.getD_cons_zero, List.getD_cons_succ, UInt8.toNat_ofNat']
  omega

theorem frame_fits (fits : message.mSize ≤ Message.capacity) :
    rawHeaderSize + message.mSize < 65536 ∧ udpHeaderSize + message.mSize < 65536 := by
  simp only [rawHeaderSize, udpHeaderSize, Message.capacity] at fits ⊢
  omega

theorem ip_total_length (fits : message.mSize ≤ Message.capacity) :
    networkWord (sendRawUdp source sourcePort destination destinationPort message) 2 =
      rawHeaderSize + message.mSize := by
  rw [send_raw_udp_eq]
  exact network_word_at [ipVersion <<< 4 ||| ipHeaderWords, 0]
    ((sentIpHeader source destination message).bytes.drop 4 ++
      ((sentUdpHeader source sourcePort destination destinationPort message).bytes ++
        message.bytes)) (frame_fits message fits).1

theorem udp_length (fits : message.mSize ≤ Message.capacity) :
    networkWord (sendRawUdp source sourcePort destination destinationPort message) 24 =
      udpHeaderSize + message.mSize := by
  rw [send_raw_udp_eq]
  have word := network_word_at ((sentIpHeader source destination message).bytes ++
      (bytes16 (swap16 sourcePort) ++ bytes16 (swap16 destinationPort)))
    (bytes16 (sentUdpHeader source sourcePort destination destinationPort message).check ++
      message.bytes) (frame_fits message fits).2
  rw [List.append_assoc] at word
  exact word

/-- The first word of the IP header is not zero. -/
theorem ip_words_ne_zero :
    (hostWords (rawIpHeader source destination message).bytes).sum ≠ 0 := by
  have words : hostWords (rawIpHeader source destination message).bytes =
      ((ipVersion <<< 4 ||| ipHeaderWords : UInt8).toNat + 256 * (0 : UInt8).toNat) ::
        hostWords ((rawIpHeader source destination message).bytes.drop 2) := rfl
  have first : (ipVersion <<< 4 ||| ipHeaderWords : UInt8).toNat = 0x45 := by decide
  rw [words, List.sum_cons, first]
  omega

theorem ip_adds : Adds (rawIpHeader source destination message).bytes 0 := by
  apply add_checksum_adds (Nat.zero_le _)
  rw [ip_bytes_length]
  decide

theorem ip_sum :
    onesSum (networkWords (sentIpHeader source destination message).bytes) = 65535 := by
  have adds := ip_adds source destination message
  have folds := adds.folds
  rw [UInt32.toNat_zero, Nat.zero_add] at folds
  have even : (rawIpHeader source destination message).front.length % 2 = 0 := by
    rw [show (rawIpHeader source destination message).front.length = 10 from rfl]
  have some := ip_words_ne_zero source destination message
  rw [ip_bytes_split] at folds some ⊢
  exact filled_sum even adds.bound folds some

/-- The words under the UDP checksum in front of the check field. -/
def udpFront : List UInt8 :=
  bytes32 source ++ bytes32 destination ++ bytes16 (swap16 ipProtoUdp.toUInt16) ++
    bytes16 (swap16 (UInt16.ofNat (udpHeaderSize + message.mSize))) ++
    bytes16 (swap16 sourcePort) ++ bytes16 (swap16 destinationPort) ++
    bytes16 (swap16 (UInt16.ofNat (udpHeaderSize + message.mSize)))

theorem udp_pieces_flatten (ip : IpHdr) (sameSource : ip.saddr = source)
    (sameDestination : ip.daddr = destination) :
    (udpPieces ip (rawUdpHeader sourcePort destinationPort message)).flatten ++ message.bytes =
      udpFront source sourcePort destination destinationPort message ++
        (bytes16 0 ++ message.bytes) := by
  rw [← sameSource, ← sameDestination]
  rfl

theorem udp_front_length :
    (udpFront source sourcePort destination destinationPort message).length = 18 := rfl

/-- The word of the protocol is not zero. -/
theorem udp_words_ne_zero (rest : List UInt8) :
    (hostWords (udpFront source sourcePort destination destinationPort message ++ rest)).sum ≠
      0 := by
  have split : udpFront source sourcePort destination destinationPort message ++ rest =
      (bytes32 source ++ bytes32 destination) ++ (bytes16 (swap16 ipProtoUdp.toUInt16) ++
        ((udpFront source sourcePort destination destinationPort message).drop 10 ++ rest)) := rfl
  have protocol : (swap16 ipProtoUdp.toUInt16).toNat = 0x1100 := by decide
  rw [split, host_words_append _ _ (by simp), List.sum_append, host_words_bytes16, List.sum_cons,
    protocol]
  omega

theorem udp_pieces_add (fits : message.mSize ≤ Message.capacity) :
    let pieces := udpPieces (sentIpHeader source destination message)
      (rawUdpHeader sourcePort destinationPort message)
    (addPieces 0 (pieces ++ [message.bytes])).toNat ≤ 65535 ∧
      Folds (hostWords (udpFront source sourcePort destination destinationPort message ++
        (bytes16 0 ++ message.bytes))).sum (addPieces 0 (pieces ++ [message.bytes])) ∧
      ∀ call ∈ checksumCalls 0 (pieces ++ [message.bytes]), Adds call.1 call.2 := by
  have short : message.bytes.length ≤ 65536 := by
    rw [Message.bytes_length]
    exact Nat.le_trans fits (by decide)
  have start : (0 : UInt32).toNat ≤ 65535 := Nat.zero_le _
  have added := add_pieces_folds start
    (udp_pieces_sized (sentIpHeader source destination message)
      (rawUdpHeader sourcePort destinationPort message)) short
  rw [udp_pieces_flatten source sourcePort destination destinationPort message _ rfl rfl,
    UInt32.toNat_zero, Nat.zero_add] at added
  exact added

theorem udp_sum (fits : message.mSize ≤ Message.capacity) :
    onesSum (networkWords (udpFront source sourcePort destination destinationPort message ++
      (bytes16 (sentUdpHeader source sourcePort destination destinationPort message).check ++
        message.bytes))) = 65535 := by
  obtain ⟨bound, folds, -⟩ :=
    udp_pieces_add source sourcePort destination destinationPort message fits
  have even : (udpFront source sourcePort destination destinationPort message).length % 2 = 0 := by
    rw [udp_front_length]
  exact filled_sum even bound folds (udp_words_ne_zero _ _ _ _ _ _)

/-- The receiver's pseudo-header and UDP header, as the sender summed them. -/
theorem pseudo_header_front (fits : message.mSize ≤ Message.capacity) :
    let frame := sendRawUdp source sourcePort destination destinationPort message
    pseudoHeader frame ++ frame.drop ipHeaderSize =
      udpFront source sourcePort destination destinationPort message ++
        (bytes16 (sentUdpHeader source sourcePort destination destinationPort message).check ++
          message.bytes) := by
  have sized : (sendRawUdp source sourcePort destination destinationPort message).length -
      ipHeaderSize = udpHeaderSize + message.mSize := by
    rw [send_raw_udp_length]
    simp only [rawHeaderSize, ipHeaderSize, udpHeaderSize]
    omega
  have length := bytes16_swap16_ofNat (frame_fits message fits).2
  have protocol : bytes16 (swap16 ipProtoUdp.toUInt16) = [0, ipProtoUdp] := by decide
  dsimp only
  unfold pseudoHeader
  rw [sized, ← length, send_raw_udp_eq]
  unfold udpFront
  rw [protocol]
  rfl

theorem sent_header_valid (port : UInt16) :
    rawHeaderValid port (sendRawUdp source sourcePort destination destinationPort message) =
      decide (port = destinationPort) := by
  have first : (ipVersion <<< 4 ||| ipHeaderWords : UInt8) >>> 4 = ipVersion := by decide
  have second : (ipVersion <<< 4 ||| ipHeaderWords : UInt8) &&& 15 = ipHeaderWords := by decide
  have sent := word16_bytes (swap16 destinationPort)
  rw [send_raw_udp_eq]
  unfold rawHeaderValid
  rw [decide_eq_decide]
  constructor
  · rintro ⟨-, -, -, same⟩
    have swapped : swap16 destinationPort = swap16 port := sent.symm.trans same
    rw [← swap16_swap16 port, ← swapped, swap16_swap16]
  · rintro rfl
    exact ⟨first, second, rfl, sent⟩

/-- Every frame is a valid datagram, no accumulator wraps on the way, and receiving it gives
the message back, valid for exactly the port it was sent to. -/
theorem raw_frame_reads_back (fits : message.mSize ≤ Message.capacity) :
    let frame := sendRawUdp source sourcePort destination destinationPort message
    ValidDatagram source destination frame ∧
      (∀ call ∈ frameCalls source sourcePort destination destinationPort message,
        Adds call.1 call.2) ∧
      ∀ port buffer, (receiveRawUdp port buffer frame).2 = decide (port = destinationPort) ∧
        (receiveRawUdp port buffer frame).1.mSize = message.mSize ∧
        (receiveRawUdp port buffer frame).1.bytes = message.bytes := by
  have pieces := udp_pieces_add source sourcePort destination destinationPort message fits
  refine ⟨?_, ?_, ?_⟩
  · constructor
    · rw [ip_total_length _ _ _ _ _ fits, send_raw_udp_length]
    · rw [udp_length _ _ _ _ _ fits, send_raw_udp_length]
      simp only [rawHeaderSize, ipHeaderSize, udpHeaderSize]
      omega
    · rw [send_raw_udp_eq]
      rfl
    · rw [send_raw_udp_eq, List.take_left' (ip_bytes_length _)]
      exact ip_sum source destination message
    · rw [pseudo_header_front _ _ _ _ _ fits]
      exact udp_sum source sourcePort destination destinationPort message fits
  · intro call member
    rcases List.mem_cons.mp member with same | later
    · rw [same]
      exact ip_adds source destination message
    · exact pieces.2.2 call later
  · intro port buffer
    have sized : ((sentIpHeader source destination message).bytes ++
        (sentUdpHeader source sourcePort destination destinationPort message).bytes).length =
          rawHeaderSize := rfl
    rw [send_raw_udp_eq, ← List.append_assoc, receive_raw_udp_payload port buffer sized,
      List.append_assoc, ← send_raw_udp_eq, sent_header_valid]
    refine ⟨rfl, ?_, ?_⟩
    · change min message.bytes.length Message.capacity = message.mSize
      rw [Message.bytes_length]
      exact Nat.min_eq_left fits
    · rw [received_bytes, List.take_of_length_le]
      rw [Message.bytes_length]
      exact fits

/-- A DISCOVER as the client sends it. -/
theorem raw_frame_reads_back_discover :
    (Message.discover (fun _ => 2) 1).mSize ≤ Message.capacity ∧
      ValidDatagram 0 inAddrBroadcast (sendRawUdp 0 portBootpClient inAddrBroadcast
        portBootpServer (Message.discover (fun _ => 2) 1)) := by
  have fits : (Message.discover (fun _ => 2) 1).mSize ≤ Message.capacity := by decide
  exact ⟨fits, (raw_frame_reads_back 0 portBootpClient inAddrBroadcast portBootpServer _ fits).1⟩

/-! ## A checksum of zero -/

/-- The words under the UDP checksum: the addresses, the protocol, the size twice, the ports and
the message. -/
def udpWordTotal : Nat :=
  (networkWords (bytes32 source)).sum + (networkWords (bytes32 destination)).sum +
    ipProtoUdp.toNat + 2 * (udpHeaderSize + message.mSize) + sourcePort.toNat +
    destinationPort.toNat + (networkWords message.bytes).sum

theorem network_words_swap16 (word : UInt16) (rest : List UInt8) :
    networkWords (bytes16 (swap16 word) ++ rest) = word.toNat :: networkWords rest := by
  have bound := word.toNat_lt
  rw [bytes16_swap16]
  simp only [List.cons_append, List.nil_append, networkWords, UInt8.toNat_ofNat']
  congr 1
  omega

theorem udp_word_total (fits : message.mSize ≤ Message.capacity) :
    (networkWords (udpFront source sourcePort destination destinationPort message ++
      (bytes16 0 ++ message.bytes))).sum =
        udpWordTotal source sourcePort destination destinationPort message := by
  have size := UInt16.toNat_ofNat_of_lt' (frame_fits message fits).2
  have zero : bytes16 0 = bytes16 (swap16 0) := by decide
  unfold udpFront
  simp only [List.append_assoc]
  rw [network_words_append _ _ (by simp), network_words_append _ _ (by simp), List.sum_append,
    List.sum_append, network_words_swap16, network_words_swap16, network_words_swap16,
    network_words_swap16, network_words_swap16, zero, network_words_swap16]
  simp only [List.sum_cons, UInt16.toNat_zero, UInt8.toNat_toUInt16, size]
  unfold udpWordTotal
  omega

theorem udp_check_word :
    networkWord (sendRawUdp source sourcePort destination destinationPort message) 26 = 0 ↔
      (sentUdpHeader source sourcePort destination destinationPort message).check = 0 := by
  rw [send_raw_udp_eq]
  generalize filled : sentUdpHeader source sourcePort destination destinationPort message = udp
  have bound := udp.check.toNat_lt
  change 256 * (UInt8.ofNat udp.check.toNat).toNat + (UInt8.ofNat (udp.check.toNat / 256)).toNat =
    0 ↔ _
  rw [UInt8.toNat_ofNat', UInt8.toNat_ofNat', ← UInt16.toNat_inj, UInt16.toNat_zero]
  omega

/-- The check field is zero for exactly the datagrams whose words add up to a multiple of
65535: their checksum is not sent as 0xFFFF instead. -/
theorem udp_check_sent_iff (fits : message.mSize ≤ Message.capacity) :
    networkWord (sendRawUdp source sourcePort destination destinationPort message) 26 ≠ 0 ↔
      ¬ 65535 ∣ udpWordTotal source sourcePort destination destinationPort message := by
  obtain ⟨bound, folds, -⟩ :=
    udp_pieces_add source sourcePort destination destinationPort message fits
  have some := udp_words_ne_zero source sourcePort destination destinationPort message
    (bytes16 0 ++ message.bytes)
  have finished := finish_checksum_toNat bound
  rw [← udp_check_eq] at finished
  have check : (sentUdpHeader source sourcePort destination destinationPort message).check.toNat =
      65535 - _ := finished
  have congruent := folds.congruent
  have zero := folds.zero
  rw [ne_eq, udp_check_word, ← UInt16.toNat_inj, UInt16.toNat_zero, check,
    ← udp_word_total _ _ _ _ _ fits, network_sum_dvd_iff]
  omega

end Frame

theorem udp_check_sent_discover :
    ¬ 65535 ∣ udpWordTotal 0 portBootpClient inAddrBroadcast portBootpServer
        (Message.discover (fun _ => 2) 1) ∧
      networkWord (sendRawUdp 0 portBootpClient inAddrBroadcast portBootpServer
        (Message.discover (fun _ => 2) 1)) 26 ≠ 0 := by
  have fits : (Message.discover (fun _ => 2) 1).mSize ≤ Message.capacity := by decide
  have total : ¬ 65535 ∣ udpWordTotal 0 portBootpClient inAddrBroadcast portBootpServer
      (Message.discover (fun _ => 2) 1) := by
    decide +kernel
  exact ⟨total, (udp_check_sent_iff 0 portBootpClient inAddrBroadcast portBootpServer _ fits).mpr
    total⟩

/-- 02:02:02:02:08:c3. -/
def uncheckedMac : MacAddress := fun index => [2, 2, 2, 2, 8, 0xC3].getD index.val 0

/-- The first DISCOVER of that client goes out without a checksum. -/
theorem discover_without_checksum :
    networkWord (sendRawUdp 0 portBootpClient inAddrBroadcast portBootpServer
      (Message.discover uncheckedMac 1)) 26 = 0 := by
  decide +kernel

end RedroidExt.Dhcp
