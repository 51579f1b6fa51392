import RestClient.Text.Blank
import RestClient.Text.Lines
import RestClient.Text.UpperCase
import RestClient.Text.Ranges
import RestClient.Text.Hidden
import RestClient.Text.Alphanumeric
import RestClient.Text.Bytes
import RestClient.Text.Hex
import RestClient.Text.Pattern.Options
import RestClient.Text.Pattern.Primitive
import RestClient.Text.Pattern.Nesting
import RestClient.Text.Pattern.Set
import RestClient.Text.Pattern
import RestClient.Text.Quoted
import RestClient.TypeScript.Identifier
import RestClient.TypeScript.Literal
import RestClient.TypeScript.Template
import RestClient.TypeScript.Comment
import RestClient.TypeScript.Declaration
import RestClient.TypeScript.Expr
import RestClient.TypeScript.Stmt
import RestClient.Descriptor.Verb
import RestClient.Descriptor.Operation
import RestClient.Event
import RestClient.Status
import RestClient.Names
import RestClient.MediaType
import RestClient.Client.Params
import RestClient.Client.Result
import RestClient.Client.Url
import RestClient.Client.Request
import RestClient.Client.Module
import RestClient.Decimal.Binary64
import RestClient.Decimal.Shortest
import RestClient.Json.Fault
import RestClient.Json.Blank
import RestClient.Json.Number
import RestClient.Json.Quoted
import RestClient.Json.Skip
import RestClient.Json.Format
import RestClient.Json.Record
import RestClient.Descriptor.Format
import RestClient.Disk.Basic
import RestClient.Disk.Path
import RestClient.Disk.Directories
import RestClient.Disk.FileSystem
import RestClient.Descriptor.Load
import RestClient.CommandLine.Arguments
import RestClient.CommandLine.Log
import RestClient.CommandLine.Threshold
import RestClient.CommandLine.Directive
import RestClient.CommandLine.Filter
import RestClient.CommandLine.Run
import RestClient.Main
import RestClient.Proofs.TypeScript.Template
import RestClient.Proofs.TypeScript.Literal
import RestClient.Proofs.TypeScript.Access
import RestClient.Proofs.Client.Address
import RestClient.Proofs.Json.Grammar
import RestClient.Proofs.Json.Strings
import RestClient.Proofs.Json.Tokens
import RestClient.Proofs.Json.Skip
import RestClient.Proofs.Json.Decoding
import RestClient.Proofs.Json.Records
import RestClient.Proofs.Descriptor.Decoding
import RestClient.Proofs.Json.Printing
import RestClient.Proofs.Text.Lines
import RestClient.Proofs.TypeScript.Comment
import RestClient.Proofs.TypeScript.Reads
import RestClient.Proofs.Client.Members
import RestClient.Proofs.Client.Bodies
import RestClient.Proofs.Names.Base
import RestClient.Proofs.Names.Hygiene
import RestClient.Proofs.Client.Blocks
import RestClient.Proofs.Client.Exports
import RestClient.Proofs.Client.Keys
import RestClient.Proofs.Text.Rows
import RestClient.Proofs.Client.Framing
import RestClient.Proofs.Client.Variants
import RestClient.Proofs.Decimal.Whole
import RestClient.Proofs.Client.StatusLiterals
import RestClient.Proofs.TypeScript.Braces
import RestClient.Proofs.Client.Descriptions
import RestClient.Proofs.Client.Servers
import RestClient.Proofs.TypeScript.Parse
import RestClient.Proofs.TypeScript.Unambiguous
import RestClient.Proofs.Disk.Files
import RestClient.Proofs.CommandLine.Runs
import RestClient.Proofs.Client.Interfaces
import RestClient.Proofs.Client.ParamsRows
import RestClient.Proofs.Client.Scan
import RestClient.Proofs.Names.Segments
import RestClient.Proofs.Client.Comments
import RestClient.Proofs.Client.Literals
import RestClient.Proofs.Client.Announcement
import RestClient.Proofs.Client.Reports
import RestClient.Proofs.Client.Tables
import RestClient.Proofs.Client.StaticText
import RestClient.Proofs.TypeScript.Indentation
