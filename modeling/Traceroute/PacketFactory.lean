import Traceroute.ResponseValidators

/-! `PacketFactory/*.cpp`. -/

namespace Traceroute

structure IcmpPacketFactory where
  mSource : SocketAddress
  mDestination : SocketAddress

def IcmpPacketFactory.createPacket (f : IcmpPacketFactory) (memory : IcmpHeader) (rand : Nat) :
    Except Exception IcmpPacket :=
  if f.mSource.isV4 then IcmpPacket.CreateIcmp4Packet memory rand f.mSource f.mDestination
  else IcmpPacket.CreateIcmp6Packet memory rand f.mSource f.mDestination

structure TcpPacketFactory where
  mSource : SocketAddress
  mDestination : SocketAddress
  mDport : Int

def TcpPacketFactory.createPacket (f : TcpPacketFactory) (memory : TcpHeader) (rand₁ rand₂ : Nat) :
    Except Exception TcpPacket := TcpPacket.create memory rand₁ rand₂ f.mSource f.mDestination f.mDport

structure UdpPacketFactory where
  mSource : SocketAddress
  mDestination : SocketAddress
  mDport : Int

def UdpPacketFactory.createPacket (f : UdpPacketFactory) (memory : UdpHeader) (rand : Nat) : Except Exception UdpPacket :=
  UdpPacket.create memory rand f.mSource f.mDestination f.mDport

end Traceroute
