import CommandUpgrade.Text.Basic
import CommandUpgrade.Text.CharTable
import CommandUpgrade.Text.Blank
import CommandUpgrade.Text.Digit
import CommandUpgrade.Text.Alphanumeric
import CommandUpgrade.Text.Casing
import CommandUpgrade.Text.LowerCase
import CommandUpgrade.Text.Printable
import CommandUpgrade.Fault
import CommandUpgrade.Number.Integer
import CommandUpgrade.Number.Binary64
import CommandUpgrade.Number.Decimal
import CommandUpgrade.Text.Quote
import CommandUpgrade.Tag.Basic
import CommandUpgrade.Json.Writer
import CommandUpgrade.Json.Reader
import CommandUpgrade.Tag.Reader
import CommandUpgrade.Tag.Writer
import CommandUpgrade.Command.Token
import CommandUpgrade.Text.Utf8
import CommandUpgrade.Sheet.Reader
import CommandUpgrade.Sheet.Record
import CommandUpgrade.Sheet.Writer
import CommandUpgrade.Table.Basic
import CommandUpgrade.Table.Load
import CommandUpgrade.Table.Standard
import CommandUpgrade.Tag.Number
import CommandUpgrade.Tag.Shown
import CommandUpgrade.Style.Code
import CommandUpgrade.Style.Component
import CommandUpgrade.Text.Pattern
import CommandUpgrade.Text.Identifier
import CommandUpgrade.Text.Template
import CommandUpgrade.Table.Name
import CommandUpgrade.Coordinate
import CommandUpgrade.Selector
import CommandUpgrade.Item.Components
import CommandUpgrade.Entity.Edit
import CommandUpgrade.Entity.Rule
import CommandUpgrade.Entity.Registry
import CommandUpgrade.Text.Nesting
import CommandUpgrade.Text.Enclosure
import CommandUpgrade.Text.Settle
import CommandUpgrade.Entity.Effects
import CommandUpgrade.Entity.FallingBlock
import CommandUpgrade.Entity.DisplayQuotes
import CommandUpgrade.Item.LoreText
import CommandUpgrade.Item.Carried
import CommandUpgrade.Item.Worn
import CommandUpgrade.Entity.Equipment
import CommandUpgrade.Style.Data
import CommandUpgrade.Item.Data
import CommandUpgrade.Entity.Data
import CommandUpgrade.Command.Argument
import CommandUpgrade.Command.Entity
import CommandUpgrade.Command.Block
import CommandUpgrade.Command.Script
import CommandUpgrade.Command.Particle
import CommandUpgrade.Command.Item
import CommandUpgrade.Command.Message
import CommandUpgrade.Command.Restyle
import CommandUpgrade.Command.Execute
import CommandUpgrade.Command.Convert
import CommandUpgrade.Command.Chain
import CommandUpgrade.Style.Property
import CommandUpgrade.Sheet.Conversion
import CommandUpgrade.Sheet.Unanchored
import CommandUpgrade.World.Import
import CommandUpgrade.SelfTest
import CommandUpgrade.Workspace
import CommandUpgrade.Tool
import CommandUpgrade.Workload
import CommandUpgrade.Main
import CommandUpgrade.Proofs.Digits
import CommandUpgrade.Proofs.Tag.Leaves
import CommandUpgrade.Proofs.Tag.Pieces
import CommandUpgrade.Proofs.Tag.OpenCompounds
import CommandUpgrade.Proofs.Tag.Typed
import CommandUpgrade.Proofs.Tag.Entries
import CommandUpgrade.Proofs.Tag.Confined
import CommandUpgrade.Proofs.Tag.RoundTrip
import CommandUpgrade.Proofs.Sheet.Conversion
import CommandUpgrade.Proofs.World.CommandBlocks
import CommandUpgrade.Proofs.World.Region
import CommandUpgrade.Proofs.World.Extraction
import CommandUpgrade.Proofs.World.Import
import CommandUpgrade.Proofs.World.Transfer
import CommandUpgrade.Proofs.Session.Runs
import CommandUpgrade.Proofs.Session.WorldConversion
import CommandUpgrade.Proofs.Text.Occurrences
import CommandUpgrade.Proofs.Entity.Settling
import CommandUpgrade.Proofs.Tag.Printable
import CommandUpgrade.Proofs.Item.Printable
import CommandUpgrade.Proofs.Entity.Printable
import CommandUpgrade.Proofs.Entity.Data
import CommandUpgrade.Proofs.Text.Nesting
import CommandUpgrade.Proofs.Command.Tokens
import CommandUpgrade.Proofs.Command.Execute
import CommandUpgrade.Proofs.Text.Absent
import CommandUpgrade.Proofs.Entity.OldNames
import CommandUpgrade.Proofs.Entity.Literals
import CommandUpgrade.Proofs.Entity.Stages
import CommandUpgrade.Proofs.Entity.TextFields
import CommandUpgrade.Proofs.Entity.Passengers
import CommandUpgrade.Proofs.Json.RoundTrip
import CommandUpgrade.Proofs.Style.Formatting
import CommandUpgrade.Proofs.Sheet.Decode
import CommandUpgrade.Proofs.Sheet.AnySheet
import CommandUpgrade.Proofs.Session.SheetConversion
import CommandUpgrade.Proofs.Outcome
import CommandUpgrade.Proofs.World.ChunkUpdate
import CommandUpgrade.Proofs.World.RegionUpdate
import CommandUpgrade.Proofs.World.Loading
import CommandUpgrade.Proofs.Session.WorldImport
import CommandUpgrade.Proofs.Style.Names
import CommandUpgrade.Proofs.Style.AnyText
import CommandUpgrade.Proofs.Selector.Order
import CommandUpgrade.Proofs.Selector.Scores
import CommandUpgrade.Proofs.Table.Load
import CommandUpgrade.Proofs.Selector.Types
import CommandUpgrade.Proofs.Entity.CutFields
import CommandUpgrade.Proofs.Selector.Data
import CommandUpgrade.Proofs.Item.Dropped
import CommandUpgrade.Proofs.Entity.Filling
import CommandUpgrade.Proofs.Entity.Faults
import CommandUpgrade.Proofs.Entity.DropChances
import CommandUpgrade.Proofs.Item.InventoryLore
import CommandUpgrade.Proofs.Command.Arguments
import CommandUpgrade.Proofs.Memory.Item
import CommandUpgrade.Proofs.Memory.Owned
import CommandUpgrade.Proofs.Memory.Carried
import CommandUpgrade.Proofs.Memory.Rule
import CommandUpgrade.Proofs.Memory.Conversion
import CommandUpgrade.Proofs.Command.Position
import CommandUpgrade.Proofs.Table.States
import CommandUpgrade.Proofs.Command.Script
import CommandUpgrade.Proofs.Selector.Faults
import CommandUpgrade.Proofs.Text.Template
import CommandUpgrade.Proofs.Command.HeldItem
import CommandUpgrade.Proofs.Tag.TextLists
import CommandUpgrade.Proofs.Entity.FallingBlocks
import CommandUpgrade.Proofs.Command.Lossless
import CommandUpgrade.Proofs.Tag.Progress
import CommandUpgrade.Proofs.Selector.Unanchored
import CommandUpgrade.Proofs.Table.MalformedRows
