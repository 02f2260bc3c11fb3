import VisualNovel.Json.Printer
import VisualNovel.Json.Reader
import VisualNovel.Script.Line
import VisualNovel.Script.Arguments
import VisualNovel.Script.Instruction
import VisualNovel.Condition.Operator
import VisualNovel.Condition.Blocks
import VisualNovel.Stage.Action
import VisualNovel.Stage.Codec
import VisualNovel.Stage.WaitRules
import VisualNovel.Settings
import VisualNovel.History
import VisualNovel.Cue
import VisualNovel.Signal
import VisualNovel.Timers
import VisualNovel.Pause
import VisualNovel.Engine
import VisualNovel.Review
import VisualNovel.Playback
import VisualNovel.CommandLine.Report
import VisualNovel.Main
import VisualNovel.Proofs.Text.Trimming
import VisualNovel.Proofs.Text.Splitting
import VisualNovel.Proofs.Text.LowerCase
import VisualNovel.Proofs.Dictionaries
import VisualNovel.Proofs.Scopes
import VisualNovel.Proofs.Effects
import VisualNovel.Proofs.Running
import VisualNovel.Proofs.Parts
import VisualNovel.Proofs.Reachable
import VisualNovel.Proofs.Slots
import VisualNovel.Proofs.CaseBlocks
import VisualNovel.Proofs.Evaluation
import VisualNovel.Proofs.Termination
import VisualNovel.Proofs.Backlog
import VisualNovel.Proofs.SceneIsolation
import VisualNovel.Proofs.CountedFrames
import VisualNovel.Proofs.Invariants
import VisualNovel.Proofs.DialogMoves
import VisualNovel.Proofs.DialogProtocol
import VisualNovel.Proofs.BlockNesting
import VisualNovel.Proofs.ReviewSoundness
import VisualNovel.Proofs.PlainHalt
import VisualNovel.Proofs.Chronicle
import VisualNovel.Proofs.FrameLogs
import VisualNovel.Proofs.Countdowns
import VisualNovel.Proofs.DueTimers
import VisualNovel.Proofs.TimerLatency
import VisualNovel.Proofs.CueStream
import VisualNovel.Proofs.FinishedStories
import VisualNovel.Proofs.Handshake
import VisualNovel.Proofs.AnimationReports
import VisualNovel.Proofs.Margins
import VisualNovel.Proofs.Strides
import VisualNovel.Proofs.HostPauses
import VisualNovel.Proofs.StageSteps
import VisualNovel.Proofs.Casting
import VisualNovel.Proofs.SceneTargets
import VisualNovel.Proofs.ReviewTargets
import VisualNovel.Proofs.RangeConditions
import VisualNovel.Proofs.Rosters
import VisualNovel.Proofs.SkippedBlocks
import VisualNovel.Proofs.TimerDeadlines
import VisualNovel.Proofs.PlaceholderGrammar
import VisualNovel.Proofs.VariablePasses
import VisualNovel.Proofs.ArgumentDecoding
import VisualNovel.Proofs.CallArguments
import VisualNovel.Proofs.WrittenVariables
import VisualNovel.Proofs.Coordinates
import VisualNovel.Proofs.LiveRules
import VisualNovel.Proofs.RestLengths
import VisualNovel.Proofs.TimedHalts
import VisualNovel.Proofs.JsonRoundTrips
import VisualNovel.Proofs.BlockShapes
import VisualNovel.Proofs.JoinedScripts
