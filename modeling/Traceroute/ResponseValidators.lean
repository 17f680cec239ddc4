import Traceroute.Packets

/-! `ResponseValidators/*.cpp`: whether a received datagram answers a probe. -/

namespace Traceroute

/-! ### `common.cpp` -/

/-- The number of bytes that an IP header takes by its version and `ihl` fields. -/
def getIpHeaderSize (ipHdr : Bytes) : Except Exception UInt64 :=
  if (toIpHeaderFirstByte ipHdr).version = 4 then .ok (.ofNat ((ihl ipHdr).toNat <<< 2))
  else if (toIpHeaderFirstByte ipHdr).version = 6 then .ok Ipv6Header.size
  else .error (.runtime_error "Response does not contain valid ipHeader")

def isIpHeaderPresent (responseInfo : ResponseInfo) (response : Bytes) : Except Exception Bool :=
  if responseInfo.size < IpHeaderFirstByte.size then
    .error (.runtime_error "Response does not contain an ipHeader")
  else
    .ok ((toIpHeaderFirstByte response).version = 4 || (toIpHeaderFirstByte response).version = 6)

/-- The remaining size is an unsigned difference. -/
def skipIpHeader (responseInfo : ResponseInfo) (response : Bytes) : Except Exception (ResponseInfo × Bytes) := do
  let headerSize ← getIpHeaderSize response
  return ({ responseInfo with size := responseInfo.size - headerSize }, response.advance headerSize.toNat)

def validateSameSequence (tcpReply : Bytes) (tcpEcho : TcpHeader) : Bool := (toTcpHeaderT tcpReply).seq == tcpEcho.seq

def validateSession (icmpReply : Bytes) (icmpEcho : IcmpHeader) : Bool := (toIcmpHeaderT icmpReply).id == icmpEcho.id

def getIcmpType (icmpHeader : Bytes) : UInt8 := (toIcmpHeaderT icmpHeader).type

def ICMP_ECHOREPLY : UInt8 := 0
def ICMP_DEST_UNREACH : UInt8 := 3
def ICMP_TIME_EXCEEDED : UInt8 := 11
def ICMP6_DST_UNREACH : UInt8 := 1
def ICMP6_TIME_EXCEEDED : UInt8 := 3
def ICMP6_ECHO_REPLY : UInt8 := 129

/-! ### `ResponseValidator.cpp` -/

/-- The virtual functions of a `ResponseValidator`. -/
structure ResponseValidator where
  validateProtocol : Int → Bool
  validateSize : UInt64 → Bool
  validateFields : ResponseInfo → Bytes → Except Exception Bool

def ResponseValidator.validateAll (v : ResponseValidator) (respInfo : ResponseInfo) (resp : Bytes) :
    Except Exception Bool :=
  if v.validateProtocol respInfo.protocol && v.validateSize respInfo.size then v.validateFields respInfo resp
  else .ok false

def ResponseValidator.isValid (v : ResponseValidator) (responseInfo : ResponseInfo) (response : Bytes) :
    Except Exception Bool := do
  if ← isIpHeaderPresent responseInfo response then
    let (newResponseInfo, newResponse) ← skipIpHeader responseInfo response
    v.validateAll newResponseInfo newResponse
  else
    v.validateAll responseInfo response

def validateIcmpProtocol (protocol : Int) : Bool := protocol == IPPROTO_ICMP || protocol == IPPROTO_ICMPV6

/-! ### `IcmpResponseValidator.cpp` -/

namespace IcmpResponseValidator

def validateEchoReply (icmpHeader : Bytes) (icmpPacket : IcmpPacket) (client : SocketAddress) : Bool :=
  if client.operatorEq icmpPacket.mDestinationAddress then validateSession icmpHeader icmpPacket.mIcmpHeader else false

def validateTimeExceeded (icmpHeader : Bytes) (icmpPacket : IcmpPacket) : Except Exception Bool := do
  let ipHeader := icmpHeader.advance IcmpHeader.size.toNat
  let innerIcmpHeader := ipHeader.advance (← getIpHeaderSize ipHeader).toNat
  return validateSession innerIcmpHeader icmpPacket.mIcmpHeader

end IcmpResponseValidator

open IcmpResponseValidator in
def icmpResponseValidator (mIcmpPacket : IcmpPacket) : ResponseValidator where
  validateProtocol := validateIcmpProtocol
  validateSize size := IcmpHeader.size ≤ size
  validateFields responseInfo response :=
    if getIcmpType response = ICMP_ECHOREPLY ∨ getIcmpType response = ICMP6_ECHO_REPLY then
      .ok (validateEchoReply response mIcmpPacket responseInfo.client)
    else if getIcmpType response = ICMP_TIME_EXCEEDED ∨ getIcmpType response = ICMP6_TIME_EXCEEDED then
      validateTimeExceeded response mIcmpPacket
    else .ok false

/-! ### `IcmpToTcpResponseValidator.cpp` -/

namespace IcmpToTcpResponseValidator

def advanceToTcpHeader (icmpHeader : Bytes) : Except Exception Bytes := do
  let icmpHeader := icmpHeader.advance IcmpHeader.size.toNat
  return icmpHeader.advance (← getIpHeaderSize icmpHeader).toNat

def validateTimeExceeded (icmpHeader : Bytes) (tcpPacket : TcpPacket) : Except Exception Bool := do
  return validateSameSequence (← advanceToTcpHeader icmpHeader) tcpPacket.mTcpHeader

def validateDestUnreach (icmpHeader : Bytes) (tcpPacket : TcpPacket) (client : SocketAddress) :
    Except Exception Bool := do
  if client.operatorEq tcpPacket.mDestinationAddress then
    return validateSameSequence (← advanceToTcpHeader icmpHeader) tcpPacket.mTcpHeader
  else
    return false

end IcmpToTcpResponseValidator

open IcmpToTcpResponseValidator in
def icmpToTcpResponseValidator (mTcpPacket : TcpPacket) : ResponseValidator where
  validateProtocol := validateIcmpProtocol
  validateSize size := IcmpHeader.size + TcpHeader.size ≤ size
  validateFields responseInfo response :=
    if responseInfo.client.isV4 then
      if getIcmpType response = ICMP_DEST_UNREACH then validateDestUnreach response mTcpPacket responseInfo.client
      else if getIcmpType response = ICMP_TIME_EXCEEDED then validateTimeExceeded response mTcpPacket
      else .ok false
    else
      if getIcmpType response = ICMP6_DST_UNREACH then validateDestUnreach response mTcpPacket responseInfo.client
      else if getIcmpType response = ICMP6_TIME_EXCEEDED then validateTimeExceeded response mTcpPacket
      else .ok false

/-! ### `TcpToTcpResponseValidator.cpp` -/

def tcpToTcpResponseValidator (mTcpPacket : TcpPacket) : ResponseValidator where
  validateProtocol protocol := protocol == IPPROTO_TCP
  validateSize size := TcpHeader.size ≤ size
  validateFields responseInfo response :=
    if mTcpPacket.mDestinationAddress.operatorEq responseInfo.client then
      .ok (ntohl (toTcpHeaderT response).ack_seq - 1 == ntohl mTcpPacket.mTcpHeader.seq)
    else .ok false

/-! ### `UdpResponseValidator.cpp` -/

/-- The quoted UDP header is not looked at: see the source's TODO. -/
def udpResponseValidator (mUdpPacket : UdpPacket) : ResponseValidator where
  validateProtocol := validateIcmpProtocol
  validateSize size := IcmpHeader.size + UdpHeader.size ≤ size
  validateFields responseInfo response :=
    let headerType := getIcmpType response
    if responseInfo.client.isV4 then
      if mUdpPacket.mDestinationAddress.operatorEq responseInfo.client then .ok (headerType = ICMP_DEST_UNREACH)
      else .ok (headerType = ICMP_TIME_EXCEEDED)
    else
      if mUdpPacket.mDestinationAddress.operatorEq responseInfo.client then .ok (headerType = ICMP6_DST_UNREACH)
      else .ok (headerType = ICMP6_TIME_EXCEEDED)

/-! ### `isValid` of the packets -/

def IcmpPacket.isValid (packet : IcmpPacket) (responseInfo : ResponseInfo) (response : Bytes) :
    Except Exception Bool := (icmpResponseValidator packet).isValid responseInfo response

/-- `TcpResponseValidator.cpp`: the socket's protocol decides which validator is asked. -/
def TcpPacket.isValid (packet : TcpPacket) (responseInfo : ResponseInfo) (response : Bytes) :
    Except Exception Bool :=
  if responseInfo.protocol = IPPROTO_ICMP ∨ responseInfo.protocol = IPPROTO_ICMPV6 then
    (icmpToTcpResponseValidator packet).isValid responseInfo response
  else if responseInfo.protocol = IPPROTO_TCP then (tcpToTcpResponseValidator packet).isValid responseInfo response
  else .ok false

def UdpPacket.isValid (packet : UdpPacket) (responseInfo : ResponseInfo) (response : Bytes) :
    Except Exception Bool := (udpResponseValidator packet).isValid responseInfo response

/-- A packet of one of the three classes. -/
inductive ProbePacket where
  | icmp (packet : IcmpPacket)
  | tcp (packet : TcpPacket)
  | udp (packet : UdpPacket)

def ProbePacket.toPacket : ProbePacket → Packet
  | .icmp packet => ⟨packet.mDestinationAddress, packet.isValid⟩
  | .tcp packet => ⟨packet.mDestinationAddress, packet.isValid⟩
  | .udp packet => ⟨packet.mDestinationAddress, packet.isValid⟩

end Traceroute
