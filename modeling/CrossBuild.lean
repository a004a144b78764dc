import CrossBuild.Text.Blank
import CrossBuild.Text.Printable
import CrossBuild.Text.Quoted
import CrossBuild.Path
import CrossBuild.Stage
import CrossBuild.Command
import CrossBuild.Fault
import CrossBuild.Header.Decl
import CrossBuild.Header.Symbols
import CrossBuild.Header.Scan
import CrossBuild.Toolchain
import CrossBuild.Artifact
import CrossBuild.Semver
import CrossBuild.Manifest.Basic
import CrossBuild.Manifest.Validate
import CrossBuild.Manifest.Default
import CrossBuild.Env.Vars
import CrossBuild.Env.Config
import CrossBuild.Text.Case
import CrossBuild.Toml.Token
import CrossBuild.Toml.Document
import CrossBuild.Manifest.Read
import CrossBuild.Disk
import CrossBuild.Time.Moment
import CrossBuild.Time.Stamp
import CrossBuild.Time.Span
import CrossBuild.Json.Value
import CrossBuild.Json.Read
import CrossBuild.Record
import CrossBuild.Header.Files
import CrossBuild.Pipeline
import CrossBuild.Env.Dotenv
import CrossBuild.Cli.Csv
import CrossBuild.Cli.Options
import CrossBuild.Cli.Find
import CrossBuild.Cli.Help
import CrossBuild.Cli.Run
import CrossBuild.Main
import CrossBuild.Proofs.Faults
import CrossBuild.Proofs.StageTrail
import CrossBuild.Proofs.ToolCalls
import CrossBuild.Proofs.LineScanner
import CrossBuild.Proofs.HeaderScan
import CrossBuild.Proofs.Paths
import CrossBuild.Proofs.BuildDir
import CrossBuild.Proofs.DeclName
import CrossBuild.Proofs.CommandLine
import CrossBuild.Proofs.Outputs
import CrossBuild.Proofs.DiskFrame
import CrossBuild.Proofs.StubAgreement
import CrossBuild.Proofs.StatusChain
import CrossBuild.Proofs.SymbolSet
import CrossBuild.Proofs.ObjectPath
import CrossBuild.Proofs.MergedEnv
import CrossBuild.Proofs.StubSource
import CrossBuild.Proofs.ManifestRules
