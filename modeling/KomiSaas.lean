import KomiSaas.Lib.Run
import KomiSaas.Lib.Rows
import KomiSaas.Shared.Js
import KomiSaas.Auth.Session
import KomiSaas.Auth.Accounts
import KomiSaas.Auth.UseCases
import KomiSaas.Auth.Writes
import KomiSaas.Auth.Interleaving
import KomiSaas.Auth.Rotation
import KomiSaas.Auth.Revocation
import KomiSaas.Auth.Sequential
import KomiSaas.Auth.Closing
import KomiSaas.Lib.Decimal
import KomiSaas.Shared.DecimalJs
import KomiSaas.Shared.Money
import KomiSaas.Inventory.Batch
import KomiSaas.Inventory.Events
import KomiSaas.Inventory.Item
import KomiSaas.Inventory.Allocation
import KomiSaas.Inventory.Store
import KomiSaas.Inventory.UseCases
import KomiSaas.Inventory.Interleaving
import KomiSaas.Inventory.Overrides
import KomiSaas.Inventory.OverrideRuns
import KomiSaas.Shared.IsoDate
import KomiSaas.Logging.Sanitizer
import KomiSaas.Movements.Handlers
import KomiSaas.Movements.Audit
import KomiSaas.Movements.Ledger
import KomiSaas.Inventory.Sequential
import KomiSaas.Inventory.Fefo
import KomiSaas.Inventory.Frozen
import KomiSaas.Products.Suggestion
import KomiSaas.Products.Interleaving
import KomiSaas.Products.Names
import KomiSaas.Users.Interleaving
import KomiSaas.Lib.SoftDelete
import KomiSaas.Businesses.Deletion
import KomiSaas.Inventory.Isolation
import KomiSaas.Auth.TenantScope
import KomiSaas.Logging.Secrets
import KomiSaas.Inventory.Stock
import KomiSaas.Products.ZeroDivision
import KomiSaas.Inventory.Costs
import KomiSaas.Products.RecipeInfo
import KomiSaas.Inventory.Loops
import KomiSaas.Inventory.Names
import KomiSaas.Auth.Login
import KomiSaas.BranchConfigs.Config
import KomiSaas.BranchConfigs.Fold
import KomiSaas.Inventory.Minimums
import KomiSaas.Lib.Forest
import KomiSaas.Menus.Menu
import KomiSaas.Menus.TreeBuilder
import KomiSaas.Lib.Mutator
import KomiSaas.Products.Atomic
import KomiSaas.Inventory.Aggregate
import KomiSaas.Inventory.Atomic
import KomiSaas.Inventory.Persistence
import KomiSaas.Users.BirthDate
import KomiSaas.Lib.Like
import KomiSaas.Lib.Paging
import KomiSaas.Lib.Overtaken
import KomiSaas.Lib.Writes
import KomiSaas.Lib.Aliases
import KomiSaas.Lib.ForeignKeys
import KomiSaas.Shared.Listing
import KomiSaas.Shared.Text
import KomiSaas.Shared.Number
import KomiSaas.Categories.Category
import KomiSaas.Categories.Interleaving
import KomiSaas.Categories.Search
import KomiSaas.Products.Identity
import KomiSaas.Products.Search
import KomiSaas.Auth.Families
import KomiSaas.Inventory.Lots
import KomiSaas.Users.Creation
import KomiSaas.Users.Constraints
import KomiSaas.Seed.Cleaner
import KomiSaas.Http.Catalog
import KomiSaas.Http.Filter
import KomiSaas.Lib.InTurn
import KomiSaas.Lib.Shards
import KomiSaas.Businesses.Creation
import KomiSaas.Businesses.Constraints
import KomiSaas.Businesses.BranchNames
import KomiSaas.Businesses.Isolation
