import TileEvents.Completion
import TileEvents.Main
import TileEvents.Session.Playthrough
import TileEvents.Proofs.Definition.Closed
import TileEvents.Proofs.Session.History
import TileEvents.Proofs.Session.Validated
import TileEvents.Proofs.Walk.Answers
import TileEvents.Proofs.Walk.Popups
import TileEvents.Proofs.Walk.Cycle
import TileEvents.Proofs.Definition.TypeTags
import TileEvents.Proofs.Walk.Deciding
import TileEvents.Proofs.Ron.Numerals
import TileEvents.Proofs.Ron.Scanning
import TileEvents.Proofs.Ron.Reading
import TileEvents.Proofs.Console.Executing
import TileEvents.Proofs.Savegame.RoundTrip
import TileEvents.Proofs.Console.Dialogue
import TileEvents.Proofs.Console.Protocol
import TileEvents.Proofs.Walk.Deeds
import TileEvents.Proofs.Walk.EventBits
import TileEvents.Proofs.Session.OneShot
import TileEvents.Proofs.Walk.Absorbing
import TileEvents.Proofs.Session.Frame
import TileEvents.Proofs.Party.Repaying
import TileEvents.Proofs.Party.Weight
import TileEvents.Proofs.Party.Mortality
import TileEvents.Proofs.Party.Curses
import TileEvents.Proofs.Session.TileReplay
import TileEvents.Proofs.Console.Loading
import TileEvents.Proofs.Dice.Range
import TileEvents.Proofs.Party.Prices
import TileEvents.Proofs.Party.Stats
import TileEvents.Proofs.Party.Traps
import TileEvents.Proofs.Walk.InPlace
import TileEvents.Proofs.Session.Targets
import TileEvents.Proofs.Session.SameEvent
import TileEvents.Proofs.Party.Throws
import TileEvents.Proofs.Walk.FlagActions
import TileEvents.Proofs.Definition.Written
import TileEvents.Proofs.Definition.Report
import TileEvents.Proofs.Console.Grammar
import TileEvents.Proofs.Console.Speaking
import TileEvents.Proofs.Console.Saving
import TileEvents.Proofs.Session.Talking
import TileEvents.Proofs.Session.Whereabouts
import TileEvents.Proofs.Session.HopBound
import TileEvents.Proofs.Savegame.BitLayout
import TileEvents.Proofs.Code.TriggerNumbers
import TileEvents.Proofs.Text.Hearing
import TileEvents.Proofs.Console.Completing
