import Capsrv.Foundation.Text
import Capsrv.Foundation.ByteMemory
import Capsrv.Foundation.ByteReader
import Capsrv.Foundation.Process
import Capsrv.Foundation.Part
import Capsrv.Foundation.ProgramClass
import Capsrv.Foundation.Aborts
import Capsrv.Foundation.Follows
import Capsrv.Foundation.Recording
import Capsrv.Foundation.Flow
import Capsrv.Foundation.Schedule
import Capsrv.Foundation.CriticalSection
import Capsrv.Foundation.Locality
import Capsrv.Foundation.Threads
import Capsrv.Foundation.ThreadProgress
import Capsrv.Foundation.TableProgram
import Capsrv.Foundation.Prints
import Capsrv.Foundation.FileStore
import Capsrv.Foundation.Quota
import Capsrv.Foundation.Numbering
import Capsrv.Foundation.SlotTable
import Capsrv.Result
import Capsrv.Types
import Capsrv.PathCipher
import Capsrv.AlbumPath
import Capsrv.AlbumPathPrints
import Capsrv.FileName
import Capsrv.FileNameGrammar
import Capsrv.ScreenshotMac
import Capsrv.VideoExtractor
import Capsrv.Image.ExifDetail
import Capsrv.Image.ExifRegion
import Capsrv.Image.ExifExtractor
import Capsrv.Image.ExifContent
import Capsrv.Image.Ifd
import Capsrv.Image.ExifBounds
import Capsrv.Image.ExifSlots
import Capsrv.Image.TagTable
import Capsrv.Image.TagLookup
import Capsrv.Image.ExifValues
import Capsrv.Image.ExifRecovery
import Capsrv.Image.ExtractedText
import Capsrv.Image.ExifAccepted
import Capsrv.Image.StrayDirectory
import Capsrv.Image.LogicalExif
import Capsrv.Image.ByteOrder
import Capsrv.Image.ExifVerify
import Capsrv.Image.ExifAgreement
import Capsrv.Image.VerifyReads
import Capsrv.Image.GenuineScreenshot
import Capsrv.AlbumTables
import Capsrv.FileSystem
import Capsrv.AlbumFilePath
import Capsrv.AlbumManager
import Capsrv.Mount
import Capsrv.MountInvariant
import Capsrv.AlbumFile
import Capsrv.AlbumFileSteps
import Capsrv.AlbumFileSafety
import Capsrv.AlbumCounts
import Capsrv.SharedPaths
import Capsrv.DirectoryScan
import Capsrv.ScannedFiles
import Capsrv.AlbumListing
import Capsrv.DirectoryTree
import Capsrv.ScanPathBuffer
import Capsrv.FileIdGenerator
import Capsrv.AlbumRequests
import Capsrv.ScanReports
import Capsrv.ScanFailures
import Capsrv.AlbumFileSuccess
import Capsrv.SavePromise
import Capsrv.Reservations
import Capsrv.RequestInvariants
import Capsrv.LastErrors
import Capsrv.GeneratedFileId
import Capsrv.ServerStart
import Capsrv.StreamId
import Capsrv.RecordedRequests
import Capsrv.RemovedStorage
import Capsrv.TemporaryFile
import Capsrv.Overlay
import Capsrv.Application.Codec
import Capsrv.Application.Manager
import Capsrv.Application.Entries
import Capsrv.Application.InPlace
import Capsrv.Application.Requests
import Capsrv.Application.Registration
import Capsrv.Server
import Capsrv.CommandArguments
import Capsrv.AccessorService
import Capsrv.ControlService
import Capsrv.ServerMessages
import Capsrv.ServerRuns
import Capsrv.ServerInvariant
import Capsrv.ServerAborts
import Capsrv.AlbumIntegrity
import Capsrv.SettingsObject
import Capsrv.ServerLife
import Capsrv.ServerThreads
import Capsrv.ServerObjects
import Capsrv.ServerRegistrations
import Capsrv.ServerThumbnails
import Capsrv.ServerSizes
import Capsrv.ServerFileIds
import Capsrv.UnguardedMount
