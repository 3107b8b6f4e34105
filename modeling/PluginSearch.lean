import PluginSearch.Main
import PluginSearch.Proofs.Config.Validity
import PluginSearch.Proofs.Inventory.Selection
import PluginSearch.Proofs.Inventory.Validity
import PluginSearch.Proofs.Program.FileFaults
import PluginSearch.Proofs.Program.Refusals
import PluginSearch.Proofs.Program.Repair
import PluginSearch.Proofs.Program.UserText
import PluginSearch.Proofs.Query.Concatenation
import PluginSearch.Proofs.Query.Extension
import PluginSearch.Proofs.Query.Rereading
import PluginSearch.Proofs.Trending.FilterOrder
import PluginSearch.Proofs.Trending.SearchUrl
