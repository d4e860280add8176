import NanoArq.Poll.Resync
import NanoArq.Poll.Asserts
import NanoArq.Lib.Runs
import NanoArq.Sender.Progress
import NanoArq.Sender.Sweep
import NanoArq.Sender.Genuine
import NanoArq.Sender.Discard
import NanoArq.Sender.AckOrder
import NanoArq.Sender.Retransmit
import NanoArq.Sender.Queue
import NanoArq.Receiver.Accept
import NanoArq.Receiver.InSlot
import NanoArq.Receiver.Gaps
import NanoArq.Poll.HandOff
import NanoArq.Link.Wire
import NanoArq.Poll.NextPoll
import NanoArq.Slots
import NanoArq.Receiver.Reassembly
import NanoArq.Receiver.Ready
import NanoArq.Rejected.Inert
import NanoArq.Reset.NoTrace
import NanoArq.Handshake.Agreement
import NanoArq.Handshake.Attempts
import NanoArq.Handshake.AckFlag
import NanoArq.Seat
import NanoArq.Buffers
import NanoArq.Codec.Crc32
import NanoArq.Codec.CobsImage
import NanoArq.Receiver.Charge
import NanoArq.Link.Repeats
import NanoArq.Receiver.Truth
import NanoArq.Link.Delivery
import NanoArq.Handshake.HalfOpen
import NanoArq.Rejected.Damage
import NanoArq.Cuts
import NanoArq.Handshake.Followed
