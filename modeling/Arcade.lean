import Arcade.CommandLine
import Arcade.Machine.Register
import Arcade.Main
import Arcade.Proofs.Console.Feed
import Arcade.Proofs.Conversation.Hearing
import Arcade.Proofs.Machine.Arithmetic
import Arcade.Proofs.Machine.Blocks
import Arcade.Proofs.Machine.Bounds
import Arcade.Proofs.Machine.Chance
import Arcade.Proofs.Machine.Countdown
import Arcade.Proofs.Machine.Footprint
import Arcade.Proofs.Machine.Logged
import Arcade.Proofs.Machine.Nesting
import Arcade.Proofs.Machine.Overlay
import Arcade.Proofs.Machine.Reload
import Arcade.Proofs.Machine.Rendering
import Arcade.Proofs.Machine.Repertoire
import Arcade.Proofs.Machine.ReturnList
import Arcade.Proofs.Machine.Sprite
import Arcade.Proofs.Registry.Admission
import Arcade.Proofs.Registry.Afresh
import Arcade.Proofs.Registry.Ended
import Arcade.Proofs.Registry.Eviction
import Arcade.Proofs.Registry.Isolation
import Arcade.Proofs.Registry.Lifecycle
import Arcade.Proofs.Registry.Refinement
import Arcade.Proofs.Registry.Release
import Arcade.Proofs.Registry.Replace
import Arcade.Proofs.Registry.Reservation
import Arcade.Proofs.Registry.Sequence
import Arcade.Proofs.Registry.Solo
import Arcade.Proofs.Registry.Stop
import Arcade.Proofs.Session.Host
import Arcade.Proofs.Session.Loop
import Arcade.Proofs.Session.Tempo
import Arcade.Proofs.Settings.RoundTrip
import Arcade.Proofs.Sink.Torn
import Arcade.Registry.Rehearsal
import Arcade.Settings.Yaml
import Arcade.Sink.Lines
import Arcade.Sink.Terminal
