import TypedPattern.Session
import TypedPattern.CommandLine
import TypedPattern.Main
import TypedPattern.Proofs.Pattern.Rendering
import TypedPattern.Proofs.Pattern.Inverse
import TypedPattern.Proofs.Matching.Coverage
import TypedPattern.Proofs.Matching.Laps
import TypedPattern.Proofs.Matching.Options
import TypedPattern.Proofs.Matching.Language
import TypedPattern.Proofs.Closing.Cursor
import TypedPattern.Proofs.Closing.Escape
import TypedPattern.Proofs.Closing.Bracket
import TypedPattern.Proofs.Closing.Group
import TypedPattern.Proofs.Closing.Level
import TypedPattern.Proofs.Closing.Program
import TypedPattern.Proofs.Modes
import TypedPattern.Proofs.Printing.Written
import TypedPattern.Proofs.Printing.Escape
import TypedPattern.Proofs.Printing.Bracket
import TypedPattern.Proofs.Printing.Group
import TypedPattern.Proofs.Printing.Level
import TypedPattern.Proofs.Reading.Escape
import TypedPattern.Proofs.Reading.Bracket
import TypedPattern.Proofs.Reading.Group
import TypedPattern.Proofs.Reading.Level
import TypedPattern.Proofs.Matching.Choice
import TypedPattern.Proofs.Matching.Captures
import TypedPattern.Proofs.Fragment
import TypedPattern.Proofs.Matching.Run
import TypedPattern.Proofs.Literal
import TypedPattern.Proofs.Result
import TypedPattern.Proofs.Alternation
import TypedPattern.Proofs.Decomposition
import TypedPattern.Proofs.Replacement
import TypedPattern.Proofs.Suffix
import TypedPattern.Proofs.Conversion
import TypedPattern.Proofs.Capturing
import TypedPattern.Proofs.Pattern.Rejection
import TypedPattern.Proofs.Merging
import TypedPattern.Proofs.Template
import TypedPattern.Proofs.Pattern.Acceptance
import TypedPattern.Proofs.Editing
import TypedPattern.Proofs.Gathering
import TypedPattern.Proofs.Naming
import TypedPattern.Proofs.Reprinting
import TypedPattern.Proofs.Storing
import TypedPattern.Proofs.Unicode.Complement
import TypedPattern.Proofs.Letters
import TypedPattern.Proofs.Addresses
import TypedPattern.Proofs.Loosening
import TypedPattern.Proofs.Pattern.Mentioned
import TypedPattern.Proofs.Registrations
import TypedPattern.Proofs.Identifiers
import TypedPattern.Proofs.Pattern.Tiling
