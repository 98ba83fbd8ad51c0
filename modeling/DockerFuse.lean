import DockerFuse.FlagMap
import DockerFuse.FailFast
import DockerFuse.CaseTable
import DockerFuse.BitField
import DockerFuse.Lifecycle
import DockerFuse.Interleaving
import DockerFuse.TruncDiv
import DockerFuse.GoPath
import DockerFuse.GoFuse
import DockerFuse.Syscall
import DockerFuse.Errors
import DockerFuse.GoTime
import DockerFuse.GoFlag
import DockerFuse.Rpccommon.Flags
import DockerFuse.Rpccommon.Errno
import DockerFuse.Rpccommon.Types
import DockerFuse.Satellite.FileSystem
import DockerFuse.Satellite.Server
import DockerFuse.Satellite.FdTable
import DockerFuse.Satellite.Lifecycle
import DockerFuse.Satellite.Panics
import DockerFuse.Satellite.Goroutines
import DockerFuse.Satellite.Concurrency
import DockerFuse.Satellite.MapChecks
import DockerFuse.Client.Client
import DockerFuse.Client.SetAttr
import DockerFuse.Client.Node
import DockerFuse.Mount.Wire
import DockerFuse.Mount.Handles
import DockerFuse.Mount.Tree
import DockerFuse.Mount.Errnos
import DockerFuse.Mount.Replies
import DockerFuse.Mount.Main
