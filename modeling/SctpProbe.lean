import SctpProbe.Main
import SctpProbe.Proofs.Address.Peers
import SctpProbe.Proofs.Answering
import SctpProbe.Proofs.Buffers.Reads
import SctpProbe.Proofs.CommandLine.Calling
import SctpProbe.Proofs.Conversation
import SctpProbe.Proofs.Cutting
import SctpProbe.Proofs.Delivery.Codec
import SctpProbe.Proofs.Delivery.Reply
import SctpProbe.Proofs.Dumping
import SctpProbe.Proofs.Lingering
import SctpProbe.Proofs.Logging.Colours
import SctpProbe.Proofs.Logging.Filling
import SctpProbe.Proofs.Logging.Refusing
import SctpProbe.Proofs.Logging.Styles
import SctpProbe.Proofs.Logging.Writing
import SctpProbe.Proofs.Muted
import SctpProbe.Proofs.SettingUp
import SctpProbe.Proofs.Signals
import SctpProbe.Proofs.Subscribing
import SctpProbe.Proofs.Terminating
import SctpProbe.Text.Template
