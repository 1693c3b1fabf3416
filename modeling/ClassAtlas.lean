import ClassAtlas.Main
import ClassAtlas.Proofs.Entry.CallKeys
import ClassAtlas.Proofs.Whitelist.Configured
import ClassAtlas.Source.Staged
import ClassAtlas.Proofs.Entry.Survivors
import ClassAtlas.Proofs.Agenda
import ClassAtlas.Proofs.Closure.Finishing
import ClassAtlas.Proofs.Closure.Turns
import ClassAtlas.Proofs.Closure.Aliases
import ClassAtlas.Proofs.Closure.Coherence
import ClassAtlas.Proofs.Entry.Overloads
import ClassAtlas.Proofs.Closure.History
import ClassAtlas.Proofs.Closure.Spellings
import ClassAtlas.Proofs.Closure.Requests
import ClassAtlas.Proofs.Closure.Reachability
import ClassAtlas.Proofs.Closure.Separation
import ClassAtlas.Proofs.Closure.Bookkeeping
import ClassAtlas.Proofs.Closure.Loads
import ClassAtlas.Proofs.Closure.Agreement
import ClassAtlas.Proofs.Closure.Batches
import ClassAtlas.Proofs.ClassName.Alias
import ClassAtlas.Proofs.Closure.Collisions
import ClassAtlas.Proofs.Closure.Copies
import ClassAtlas.Proofs.Closure.Failing
import ClassAtlas.Proofs.Closure.Work
import ClassAtlas.Proofs.ClassFile.Signatures
import ClassAtlas.Proofs.Closure.Distance
import ClassAtlas.Proofs.Entry.Redeclarations
import ClassAtlas.Proofs.Options.Expansion
import ClassAtlas.Proofs.Json.Tokens
import ClassAtlas.Proofs.Json.Values
import ClassAtlas.Proofs.Json.Records
import ClassAtlas.Proofs.Declaration.Codec
import ClassAtlas.Proofs.Source.Snapshot
import ClassAtlas.Proofs.Entry.Strategies
import ClassAtlas.ClassName.Path
import ClassAtlas.SourceType.Grammar
import ClassAtlas.Proofs.SourceType.Spellings
import ClassAtlas.Proofs.Counterpart
import ClassAtlas.Proofs.SourceType.Generics
import ClassAtlas.Proofs.Closure.Dangling
import ClassAtlas.Proofs.Whitelist.Membership
import ClassAtlas.Proofs.Options.Checking
import ClassAtlas.Proofs.ClassPath.Interchange
import ClassAtlas.Proofs.ClassName.Escaping
import ClassAtlas.Proofs.Agenda.Periods
import ClassAtlas.Proofs.ClassPath.Finding
import ClassAtlas.Proofs.ClassPath.ListedClasses
import ClassAtlas.Proofs.ClassName.Nesting
